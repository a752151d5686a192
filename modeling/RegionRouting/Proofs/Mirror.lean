/-
  Region routing — notices mirror the cache.

  An observer who adds each region that is handed out, and strikes off what the
  notices name, knows at any moment which regions are cached.

  * `Invalidation.strike` is what an observer does on a notice, and
    `Run.observed` what one takes for cached at a moment of a run;
  * `Run.tells`: the notices of an action announce what it does to the cache;
  * `Run.notices_mirror`: so the observer is right at every moment, and each
    notice names what has left the cache just then, and nothing twice.
-/
import RegionRouting.Proofs.Notice
import RegionRouting.Proofs.StoreSwap
import RegionRouting.Proofs.TableChange

namespace RegionRouting

/-! ## An observer -/

namespace Invalidation

/-- Strikes off what a notice says is cached no more. -/
def strike (seen : Std.ExtTreeSet RegionId) (notice : Invalidation) : Std.ExtTreeSet RegionId :=
  match notice.scope with
  | .region | .regionStore => notice.region.elim seen seen.erase
  | .all => ∅
  | .store => seen

variable {seen : Std.ExtTreeSet RegionId} {id : RegionId}

theorem mem_strike (notice : Invalidation) :
    id ∈ strike seen notice ↔ id ∈ seen ∧ ¬notice.Strikes id := by
  have one : id ∈ notice.region.elim seen seen.erase ↔ id ∈ seen ∧ notice.region ≠ some id := by
    cases notice.region with
    | none => simp
    | some dropped =>
      rw [Option.elim_some, Std.ExtTreeSet.mem_erase, ne_eq, Std.LawfulEqCmp.compare_eq_iff_eq,
        ne_eq, Option.some.injEq, And.comm]
  unfold strike Strikes droppedRegion?
  cases notice.scope with
  | region | regionStore => simpa using one
  | store => simp
  | all => simp

theorem mem_foldl_strike (fired : List Invalidation) :
    id ∈ fired.foldl strike seen ↔ id ∈ seen ∧ ∀ notice ∈ fired, ¬notice.Strikes id := by
  induction fired generalizing seen with
  | nil => simp
  | cons first fired ih => rw [List.foldl_cons, ih, mem_strike, List.forall_mem_cons, and_assoc]

end Invalidation

namespace Run

variable {ω : Type} [Authority ω] [Prober ω] (run : Run ω) {i j : Nat}

/-- The notices between two moments. -/
def fired (i j : Nat) : List Invalidation :=
  (run.moment j).client.notices.drop (run.moment i).client.notices.length

/-- The id of the region that the action at a moment hands out, or takes into
    the cache for its caller. -/
def told? (i : Nat) : Option RegionId :=
  run.actions[i]?.bind (run.moment i).told?

/-- What an observer takes for cached at a moment: for each action, it adds the
    region that is handed out, and then strikes off what the notices name. -/
def observed : Nat → Std.ExtTreeSet RegionId
  | 0 => ∅
  | i + 1 =>
    (run.fired i (i + 1)).foldl Invalidation.strike
      ((run.told? i).elim (observed i) (observed i).insert)

/-- The cache at a moment. -/
def cacheAt (i : Nat) : Cache :=
  (run.moment i).client.cache

/-! ## What the actions of a run tell -/

theorem exists_tells (i : Nat) : ∃ fired,
    (run.moment i).client.Tells (run.told? i) fired (run.moment (i + 1)).client := by
  cases played : run.actions[i]? with
  | none =>
    rw [run.moment_succ_of_none played, told?, played]
    exact ⟨[], Client.tells_same rfl rfl rfl⟩
  | some action =>
    rw [run.moment_succ played, told?, played]
    exact (run.moment i).tells_play (run.wellFormed_moment i).toConsistent action

theorem subscribed_moment (i : Nat) : (run.moment i).client.subscribed = run.subscribed := by
  induction i with
  | zero => rfl
  | succ i ih =>
    obtain ⟨_, tells⟩ := run.exists_tells i
    exact tells.subscribed.trans ih

theorem notices_prefix (le : i ≤ j) :
    (run.moment i).client.notices <+: (run.moment j).client.notices := by
  induction le with
  | refl => exact List.prefix_rfl
  | step _ ih =>
    obtain ⟨_, tells⟩ := run.exists_tells _
    rw [tells.notices]
    exact ih.trans (List.prefix_append _ _)

theorem notices_eq_append (le : i ≤ j) :
    (run.moment j).client.notices = (run.moment i).client.notices ++ run.fired i j :=
  List.prefix_iff_eq_append.1 (run.notices_prefix le) |>.symm

theorem fired_succ (le : i ≤ j) : run.fired i (j + 1) = run.fired i j ++ run.fired j (j + 1) := by
  have whole := run.notices_eq_append (Nat.le_succ_of_le le)
  rw [run.notices_eq_append (Nat.le_succ j), run.notices_eq_append le, List.append_assoc] at whole
  exact (List.append_cancel_left whole).symm

variable {run}

/-- The notices of an action announce what it does to the cache. -/
theorem tells (subscribed : run.subscribed = true) (i : Nat) :
    Announces (run.cacheAt i) (run.told? i) (run.fired i (i + 1)) (run.cacheAt (i + 1)) := by
  obtain ⟨fired, tells⟩ := run.exists_tells i
  have notices := tells.notices
  rw [run.subscribed_moment, subscribed, if_pos rfl,
    run.notices_eq_append (Nat.le_succ i)] at notices
  exact List.append_cancel_left notices ▸ tells.announces

theorem mem_observed (subscribed : run.subscribed = true) (id : RegionId) :
    ∀ i, id ∈ run.observed i ↔ (run.cacheAt i).HasRegion id
  | 0 => by simp [observed, Cache.HasRegion, cacheAt, moment, Scene.after, Scene.start]
  | i + 1 => by
    rw [observed, Invalidation.mem_foldl_strike, (tells subscribed i).hasRegion_iff,
      ← mem_observed subscribed id i]
    refine and_congr_left' ?_
    cases run.told? i with
    | none => simp
    | some told =>
      rw [Option.elim_some, Std.ExtTreeSet.mem_insert, Std.LawfulEqCmp.compare_eq_iff_eq,
        Option.some.injEq]

/-! ## While no region is handed out -/

/-- Regions leave the cache then, and each is named once. -/
theorem fired_of_silent (subscribed : run.subscribed = true) (le : i ≤ j)
    (silent : ∀ k, i ≤ k → k < j → run.told? k = none) :
    (∀ id, (run.cacheAt j).HasRegion id → (run.cacheAt i).HasRegion id) ∧
    (∀ notice ∈ run.fired i j, ∀ id ∈ notice.droppedRegion?,
      (run.cacheAt i).HasRegion id ∧ ¬(run.cacheAt j).HasRegion id) ∧
    ((run.fired i j).filterMap Invalidation.droppedRegion?).Nodup := by
  induction le with
  | refl => simp [fired]
  | @step j le ih =>
    obtain ⟨kept, named, distinct⟩ := ih fun k since lt => silent k since (Nat.lt_succ_of_lt lt)
    have announces := tells subscribed j
    rw [silent j le (Nat.lt_succ_self j)] at announces
    have back (id : RegionId) (after : (run.cacheAt (j + 1)).HasRegion id) :
        (run.cacheAt j).HasRegion id := by
      simpa using ((announces.hasRegion_iff id).1 after).1
    rw [run.fired_succ le, List.filterMap_append, List.nodup_append']
    refine ⟨fun id after => kept id (back id after), ?_, distinct, announces.nodup, ?_⟩
    · intro notice among id one
      rcases List.mem_append.1 among with before | now
      · have gone := named notice before id one
        exact ⟨gone.1, fun after => gone.2 (back id after)⟩
      · have gone := announces.left_of_named now one
        exact ⟨kept id gone.1, gone.2⟩
    · intro id before now
      obtain ⟨notice, among, one⟩ := List.mem_filterMap.1 before
      obtain ⟨notice', among', one'⟩ := List.mem_filterMap.1 now
      exact (named notice among id one).2 (announces.left_of_named among' one').1

/-! ## The mirror -/

/-- At a moment of a run, an observer knows the cached regions; and the next
    action gives notice of what leaves the cache, and of nothing else. -/
structure Mirrors (run : Run ω) (i : Nat) : Prop where
  observed : ∀ id, id ∈ run.observed i ↔ (run.cacheAt i).HasRegion id
  appended : (run.moment (i + 1)).client.notices =
    (run.moment i).client.notices ++ run.fired i (i + 1)
  /-- a notice about a region names one that has left the cache -/
  regions : ∀ notice ∈ run.fired i (i + 1),
    notice.scope = .region ∨ notice.scope = .regionStore →
      ∃ id, notice.region = some id ∧ (run.cacheAt i).HasRegion id ∧
        ¬(run.cacheAt (i + 1)).HasRegion id
  distinct : ((run.fired i (i + 1)).filterMap Invalidation.droppedRegion?).Nodup
  /-- a notice about a store names one that has left the cache -/
  stores : ∀ notice ∈ run.fired i (i + 1), notice.scope = .store →
    ∃ id, notice.store = some id ∧ id ∈ (run.cacheAt i).stores ∧ id ∉ (run.cacheAt (i + 1)).stores
  /-- a store leaves the cache with a notice -/
  dropped : ∀ id ∈ (run.cacheAt i).stores, id ∉ (run.cacheAt (i + 1)).stores →
    ∃ notice ∈ run.fired i (i + 1), notice.scope = .store ∧ notice.store = some id
  /-- several actions that hand out no region, such as those of a round, name no
      region twice either -/
  round : ∀ j ≥ i, (∀ k, i ≤ k → k < j → run.told? k = none) →
    (∀ notice ∈ run.fired i j, ∀ id ∈ notice.droppedRegion?,
      (run.cacheAt i).HasRegion id ∧ ¬(run.cacheAt j).HasRegion id) ∧
    ((run.fired i j).filterMap Invalidation.droppedRegion?).Nodup

/-- **Notices mirror the cache.** With a subscriber, this holds at every moment
    of every run. -/
theorem notices_mirror (subscribed : run.subscribed = true) (i : Nat) : run.Mirrors i where
  observed id := mem_observed subscribed id i
  appended := run.notices_eq_append (Nat.le_succ i)
  regions _ among about := by
    obtain ⟨id, name, one⟩ := (tells subscribed i).region_named among about
    exact ⟨id, name, (tells subscribed i).left_of_named among one⟩
  distinct := (tells subscribed i).nodup
  stores _ among about := (tells subscribed i).store_named among about
  dropped _ before after := (tells subscribed i).exists_notice before after
  round _ le silent := (fired_of_silent subscribed le silent).2

/-! ## A run with a subscriber -/

/-- Two regions that overlap, the lower on the near node, the upper on the far
    one. -/
def lowerRegion : Placement :=
  ({ id := ⟨1⟩, range := ⟨[], [5]⟩, epoch := {}, peers := [⟨⟨1⟩, ⟨1⟩, .voter⟩] },
    ⟨⟨1⟩, ⟨1⟩, .voter⟩)

def upperRegion : Placement :=
  ({ id := ⟨2⟩, range := ⟨[3], []⟩, epoch := {}, peers := [⟨⟨2⟩, ⟨2⟩, .voter⟩] },
    ⟨⟨2⟩, ⟨2⟩, .voter⟩)

/-- The upper region is fetched and evicts the lower; it is dropped with its
    store; then the other store is dropped, and all regions are. -/
def overheardActions : List (Action Script) :=
  [.regionByKey [] {}, .elsewhere (·.force upperRegion), .regionByKey [7] {}, .cachedStore ⟨2⟩,
    .invalidateLedBy (.direct farNode 2), .invalidateStore ⟨1⟩, .clear]

theorem overheard_allowed : ∀ i action, overheardActions[i]? = some action →
    ((Scene.start { twoNodes with regions := [lowerRegion] } .unwatched true).after
      (overheardActions.take i)).Allows action
  | 0, _, rfl | 1, _, rfl | 2, _, rfl | 3, _, rfl | 5, _, rfl | 6, _, rfl =>
    ⟨by rintro _ ⟨⟩, by rintro _ ⟨⟩, by rintro _ ⟨⟩⟩
  | 4, _, rfl =>
    ⟨by rintro _ ⟨⟩, fun store presented => .given (by revert store; decide +kernel),
      by rintro _ ⟨⟩⟩

def overheard : Run Script where
  world := { twoNodes with regions := [lowerRegion] }
  scheduler := .unwatched
  subscribed := true
  actions := overheardActions
  unused := Scheduler.waiting_unwatched
  allowed := overheard_allowed

theorem overheard_mirrors : overheard.subscribed = true ∧ overheard.Mirrors 2 ∧
    overheard.told? 2 = some ⟨2⟩ ∧ overheard.fired 2 3 = [.ofRegion ⟨1⟩] ∧
    overheard.fired 3 7 = [.ofLedRegion ⟨2⟩ ⟨2⟩, .ofStore ⟨1⟩, .ofAll] :=
  ⟨rfl, notices_mirror rfl 2, by decide +kernel, by decide +kernel, by decide +kernel⟩

end Run
end RegionRouting
