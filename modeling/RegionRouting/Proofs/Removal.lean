/-
  Region routing — stores that a round removes.

  A round that hears of a store being tombstoned drops the regions that are led
  from it, then the store, and counts it as removed.  These are three steps,
  and others act in between.  The first presents the store value that the round
  has taken up, the second the id of the store alone.

  * `Run.exists_step`: what a round is about to do has come from a step of it;
  * `Run.Removal`: the three steps of one removal, and no other in between;
  * `Run.counted_removal`: a removal that is counted has these steps.  The store
    is gone then, whatever value it had; the regions led from it are gone if the
    value that was taken up was still cached when they were to be dropped, and
    were left alone if it was not;
  * `Run.disturbed_led`: a value that was swapped while the authority was asked
    leaves a region behind that is led from a store that was removed.
-/
import RegionRouting.Proofs.Departed
import RegionRouting.Proofs.Serving
import RegionRouting.Proofs.StoreSwap

namespace RegionRouting

variable {ω : Type} [Authority ω] [Prober ω]

/-! ## Steps of a round -/

namespace Round

variable {round : Round} {client : Client ω} {store : Store}

/-- The next step of the round asks about a store, and hears that it is
    tombstoned. -/
def HearsTombstone (round : Round) (client : Client ω) (store : Store) : Prop :=
  ∃ budget descriptor, round.stage = .ask store budget ∧
    (Authority.store store.id client.world).1 = .answer (.ok descriptor) ∧
    descriptor.state = .tombstone

/-- What a round must have done last, if it is about to drop what belongs to a
    tombstoned store. -/
def Warrants (round : Round) (client : Client ω) : Stage → Prop
  | .evict store => round.HearsTombstone client store
  | .drop store => round.stage = .evict store
  | _ => True

theorem warrants_step (round : Round) (client : Client ω) :
    round.Warrants client (round.step client).2.1.stage := by
  obtain ⟨waiting, stage, kept, tally⟩ := round
  cases stage with
  | examine =>
    cases waiting with
    | nil => trivial
    | cons store waiting =>
      simp only [step, examine]
      split <;> trivial
  | ask store budget =>
    simp only [step, ask]
    split
    · next descriptor answer =>
      dsimp only
      split
      · next dead => exact ⟨budget, descriptor, rfl, answer, dead⟩
      · trivial
    · trivial
    · split <;> trivial
  | evict store => exact rfl
  | listen store =>
    simp only [step, listen]
    split <;> trivial
  | call | drop | probe | install => trivial

/-- A removal is counted when a store is dropped, and at no other step. -/
theorem removed_step : (round.step client).2.1.tally.removed = round.tally.removed + 1 ↔
    ∃ store, round.stage = .drop store := by
  obtain ⟨waiting, stage, kept, tally⟩ := round
  cases stage with
  | examine =>
    cases waiting with
    | nil => simp [step]
    | cons other waiting =>
      simp only [step, examine]
      split <;> simp [settle, stale]
  | ask other budget =>
    simp only [step, ask]
    split
    · simp
    · simp [keep, settle]
    · split <;> simp [keep, settle]
  | drop other => simp [step, settle, removed]
  | listen other =>
    simp only [step, listen]
    split <;> simp [keep, settle]
  | install other direct =>
    simp only [step, install, settle]
    split <;> simp [recovered, stale]
  | call | evict | probe => simp [step, call]

end Round

/-! ## The rounds of a scene -/

/-- What the round at a place may be after an action: as it was, one step further,
    or between two stores. -/
inductive RoundChange (scene : Scene ω) (action : Action ω) (place : Nat) : Round → Prop
  | kept {round : Round} (other : action ≠ .stepRound place)
      (before : scene.rounds[place]? = some round) : RoundChange scene action place round
  | stepped {round : Round} (played : action = .stepRound place)
      (before : scene.rounds[place]? = some round) :
      RoundChange scene action place (round.step scene.client).2.1
  | idle {round : Round} (examines : round.stage = .examine) : RoundChange scene action place round

theorem roundChange_play {scene : Scene ω} {action : Action ω} {place : Nat} {round : Round}
    (after : (scene.play action).rounds[place]? = some round) :
    RoundChange scene action place round := by
  -- a round that is begun stands after the others
  have begun {rest : List Store} (after : (scene.rounds ++ [{ waiting := rest }])[place]? =
      some round) : scene.rounds[place]? = some round ∨ round.stage = .examine := by
    rw [List.getElem?_append] at after
    split at after
    · exact .inl after
    · exact .inr (List.mem_singleton.1 (List.mem_of_getElem? after) ▸ rfl)
  have changed {other : Nat} {next : Round} (after : (scene.rounds.set other next)[place]? =
      some round) : other = place ∧ next = round ∨ other ≠ place ∧
        scene.rounds[place]? = some round := by
    rw [List.getElem?_set] at after
    split at after
    · next here => exact .inl ⟨here, Option.some.inj (Option.ite_none_right_eq_some.1 after).2⟩
    · next elsewhere => exact .inr ⟨elsewhere, after⟩
  cases action with
  | beginRound => exact (begun after).elim (.kept (by simp)) .idle
  | takeUp => exact (begun after).elim (.kept (by simp)) .idle
  | stepRound other =>
    rw [Scene.play] at after
    cases running : scene.rounds[other]? with
    | none =>
      rw [running, Option.elim_none] at after
      refine .kept (fun same => ?_) after
      cases same
      cases running.symm.trans after
    | some before =>
      rw [running, Option.elim_some] at after
      rcases changed after with ⟨rfl, rfl⟩ | ⟨elsewhere, before⟩
      · exact .stepped rfl running
      · exact .kept (fun same => elsewhere (Action.stepRound.inj same)) before
  | finishRound other =>
    rw [Scene.play] at after
    cases running : scene.rounds[other]? with
    | none =>
      rw [running, Option.elim_none] at after
      exact .kept (by simp) after
    | some before =>
      rw [running, Option.elim_some, Scene.finishRound] at after
      split at after
      · rcases changed after with ⟨-, rfl⟩ | ⟨-, before⟩
        · exact .idle rfl
        · exact .kept (by simp) before
      · exact .kept (by simp) after
  | _ => exact .kept (by simp) after

/-! ## The steps of a removal -/

namespace Run

variable {run : Run ω} {i j place heard evicted dropped : Nat} {round : Round} {store : Store}
  {region : Region}

/-- Is the action at a moment a step of this round, at this place? -/
def steps (run : Run ω) (i place : Nat) (round : Round) : Prop :=
  run.actions[i]? = some (.stepRound place) ∧ (run.moment i).rounds[place]? = some round

/-- Does the step count a store as removed? -/
def countsRemoval (run : Run ω) (i place : Nat) : Prop :=
  ∃ round, run.steps i place round ∧
    (round.step (run.moment i).client).2.1.tally.removed = round.tally.removed + 1

/-- An action that steps a round leaves the client as the step does. -/
theorem moment_succ_of_steps (h : run.steps i place round) :
    (run.moment (i + 1)).client = (round.step (run.moment i).client).2.2 := by
  rw [run.moment_succ h.1, Scene.play, h.2]
  rfl

/-- What a round is about to do, once it has taken up a store, has come from the last
    step at its place. -/
theorem exists_step (running : (run.moment i).rounds[place]? = some round)
    (busy : round.stage ≠ .examine) : ∃ j before, j < i ∧ run.steps j place before ∧
      (before.step (run.moment j).client).2.1 = round ∧
      ∀ k, j < k → k < i → run.actions[k]? ≠ some (.stepRound place) := by
  induction i with
  | zero => cases running
  | succ i ih =>
    -- either the last action is the step, or the round has been there before it
    have earlier (before : (run.moment i).rounds[place]? = some round)
        (other : run.actions[i]? ≠ some (.stepRound place)) : ∃ j before, j < i + 1 ∧
          run.steps j place before ∧ (before.step (run.moment j).client).2.1 = round ∧
          ∀ k, j < k → k < i + 1 → run.actions[k]? ≠ some (.stepRound place) := by
      obtain ⟨j, last, lt, steps, next, alone⟩ := ih before
      refine ⟨j, last, Nat.lt_succ_of_lt lt, steps, next, fun k since until' => ?_⟩
      rcases Nat.lt_succ_iff_lt_or_eq.1 until' with before | rfl
      · exact alone k since before
      · exact other
    cases played : run.actions[i]? with
    | none =>
      rw [run.moment_succ_of_none played] at running
      exact earlier running (by rw [played]; nofun)
    | some action =>
      rw [run.moment_succ played] at running
      cases roundChange_play running with
      | kept other before => exact earlier before (by rwa [played, ne_eq, Option.some_inj])
      | @stepped before isStep stood =>
        cases isStep
        exact ⟨i, before, Nat.lt_succ_self i, ⟨played, stood⟩, rfl, fun k since until' =>
          absurd since (Nat.not_lt.2 (Nat.le_of_lt_succ until'))⟩
      | idle examines => exact absurd examines busy

/-- The steps in which a round removes a store: it hears of the tombstone, drops the
    regions, and drops the store.  It makes no other step in between. -/
structure Removal (run : Run ω) (place : Nat) (store : Store) (heard evicted dropped : Nat) :
    Prop where
  heard_lt : heard < evicted
  evicted_lt : evicted < dropped
  hears : ∃ round, run.steps heard place round ∧
    round.HearsTombstone (run.moment heard).client store
  evicts : ∃ round, run.steps evicted place round ∧ round.stage = .evict store
  drops : ∃ round, run.steps dropped place round ∧ round.stage = .drop store
  alone : ∀ k, heard < k → k < dropped → k ≠ evicted →
    run.actions[k]? ≠ some (.stepRound place)

/-- A removal that is counted has these steps. -/
theorem exists_removal (counted : run.countsRemoval i place) :
    ∃ store heard evicted, run.Removal place store heard evicted i := by
  obtain ⟨dropping, drops, counts⟩ := counted
  obtain ⟨store, dropStage⟩ := Round.removed_step.1 counts
  obtain ⟨evicted, evicting, evicted_lt, evicts, rfl, after⟩ :=
    exists_step drops.2 (by rw [dropStage]; nofun)
  have evictStage := evicting.warrants_step (run.moment evicted).client
  rw [dropStage] at evictStage
  obtain ⟨heard, hearing, heard_lt, hears, rfl, before⟩ :=
    exists_step evicts.2 (by rw [evictStage]; nofun)
  have tombstone := hearing.warrants_step (run.moment heard).client
  rw [evictStage] at tombstone
  refine ⟨store, heard, evicted, heard_lt, evicted_lt, ⟨hearing, hears, tombstone⟩,
    ⟨_, evicts, evictStage⟩, ⟨_, drops, dropStage⟩, fun k since until' other => ?_⟩
  rcases Nat.lt_or_gt_of_ne other with early | late
  · exact before k since early
  · exact after k late until'

/-! ### Stages that are known -/

/-- What the round at a place does next. -/
def stageAt (run : Run ω) (i place : Nat) : Option Stage :=
  (run.moment i).rounds[place]?.map (·.stage)

theorem countsRemoval_of_stageAt (played : run.actions[i]? = some (.stepRound place))
    (stage : run.stageAt i place = some (.drop store)) : run.countsRemoval i place := by
  obtain ⟨round, running, drops⟩ := Option.map_eq_some_iff.1 stage
  exact ⟨round, ⟨played, running⟩, Round.removed_step.2 ⟨store, drops⟩⟩

theorem Removal.eq_of_stageAt {other : Store}
    (h : run.Removal place store heard evicted dropped)
    (stage : run.stageAt dropped place = some (.drop other)) : store = other := by
  obtain ⟨round, steps, drops⟩ := h.drops
  rw [stageAt, steps.2, Option.map_some, drops] at stage
  cases stage
  rfl

/-- Where a round makes its steps one right after the other, a removal is the last
    three. -/
theorem Removal.consecutive (h : run.Removal place store heard evicted (i + 2))
    (first : run.actions[i]? = some (.stepRound place))
    (second : run.actions[i + 1]? = some (.stepRound place)) : heard = i ∧ evicted = i + 1 := by
  have before := h.heard_lt
  have after := h.evicted_lt
  have evicts : evicted = i + 1 := by
    by_contra other
    exact h.alone (i + 1) (by omega) (by omega) (by omega) second
  refine ⟨?_, evicts⟩
  by_contra other
  exact h.alone i (by omega) (by omega) (by omega) first

/-! ## What a removal leaves -/

/-- The store is dropped, whatever value is cached under its id. -/
theorem Removal.store_dropped (h : run.Removal place store heard evicted dropped) :
    (run.storesAt (dropped + 1))[store.id]? = none := by
  obtain ⟨round, steps, stage⟩ := h.drops
  obtain ⟨_, _, _, eq⟩ := (run.moment dropped).client.invalidateStore_snd store.id
  rw [storesAt, moment_succ_of_steps steps, Round.step, stage]
  dsimp only
  rw [eq]
  exact Std.ExtTreeMap.getElem?_erase_self

/-- If the value was still cached, the regions led from it are dropped. -/
theorem Removal.lacks_led (h : run.Removal place store heard evicted dropped)
    (held : (run.moment evicted).client.cache.holdsStore store) (before : run.caches heard region)
    (led : region.leader.store = store.id) : run.Lacks (evicted + 1) region := by
  obtain ⟨round, steps, stage⟩ := h.evicts
  obtain ⟨_, _, eq⟩ := (run.moment evicted).client.invalidateLedBy_snd store
  have table := run.wellFormed_moment evicted
  intro id cached present
  rw [moment_succ_of_steps steps, Round.step, stage] at present
  dsimp only at present
  rw [eq, if_pos held, RegionTable.get?_evict] at present
  obtain ⟨spared, present⟩ := Option.ite_none_left_eq_some.1 present
  refine Bool.eq_false_iff.2 fun same => spared ?_
  obtain rfl := eq_of_caches (Nat.le_of_lt h.heard_lt) before present same
  refine List.mem_map.2 ⟨cached, List.mem_filter.2 ⟨?_, beq_iff_eq.2 led⟩, ?_⟩
  · exact RegionTable.mem_values.2 ⟨id, present⟩
  · exact table.id_of_get? present

/-- A store value that is no longer cached when its regions are to be evicted changes
    nothing about them. -/
theorem Removal.unchanged (h : run.Removal place store heard evicted dropped)
    (lost : (run.moment evicted).client.cache.holdsStore store = false) :
    (run.moment (evicted + 1)).client = (run.moment evicted).client := by
  obtain ⟨round, steps, stage⟩ := h.evicts
  rw [moment_succ_of_steps steps, Round.step, stage]
  dsimp only
  rw [Client.invalidateLedBy, lost]
  rfl

/-- **Counted removals.** Whenever a round counts a store as removed, no store is
    cached under the id.  If the value that the round has taken up was still cached
    when its regions were to be dropped, then no region that was cached and led
    from the store when the tombstone was heard of is cached, unless an update
    has brought it back since.  If the value was not cached any more, the regions
    were left alone. -/
theorem counted_removal (counted : run.countsRemoval i place) :
    ∃ store heard evicted, run.Removal place store heard evicted i ∧
      (run.storesAt (i + 1))[store.id]? = none ∧
      ((run.moment evicted).client.cache.holdsStore store = true → ∀ region,
        run.caches heard region → region.leader.store = store.id →
        (∀ k, evicted < k → k < i → ¬run.reinstalls k region) → run.Lacks (i + 1) region) ∧
      ((run.moment evicted).client.cache.holdsStore store = false →
        (run.moment (evicted + 1)).client = (run.moment evicted).client) := by
  obtain ⟨store, heard, evicted, removal⟩ := exists_removal counted
  refine ⟨store, heard, evicted, removal, removal.store_dropped, ?_, removal.unchanged⟩
  intro held region cached led away
  have made : region.generation < (run.moment (evicted + 1)).client.ledger.issued :=
    Nat.lt_of_lt_of_le (run.generation_lt_of_caches cached)
      (run.issued_mono (Nat.le_succ_of_le (Nat.le_of_lt removal.heard_lt)))
  have later : evicted + 1 ≤ i + 1 := Nat.succ_le_succ (Nat.le_of_lt removal.evicted_lt)
  refine lacks_of_le made (removal.lacks_led held cached led) later fun k since until' => ?_
  rcases Nat.lt_succ_iff_lt_or_eq.1 until' with before | rfl
  · exact away k since before
  · -- the last action drops the store
    obtain ⟨_, steps, -⟩ := removal.drops
    rintro ⟨expected, replacement, played, -⟩
    cases steps.1.symm.trans played

/-! ## A store that is replaced while the authority is asked -/

/-- The store of the halves: as it was fetched, behind a proxy, and behind it anew. -/
def halvesStore : Store :=
  .direct { id := ⟨1⟩, address := "node", labels := [], state := .up } 0

def proxied (generation : Generation) : Store :=
  .forwarded halvesStore.descriptor generation halvesStore

/-- A key of the upper half is looked up, and its store is put behind a proxy.  The
    store is tombstoned, and a round removes it; something happens while the round
    waits for the authority. -/
def removalActions (meanwhile : List (Action Script)) : List (Action Script) :=
  [.regionByKey [7] {}, .cachedStore ⟨1⟩, .forwardThrough halvesStore halvesStore,
    .updateStore halvesStore (proxied 2),
    .elsewhere (·.setStore ⟨1⟩ { halvesStore.descriptor with state := .tombstone }),
    .beginRound [proxied 2], .stepRound 0, .stepRound 0] ++ meanwhile ++
  [.stepRound 0, .stepRound 0, .stepRound 0]

/-- The store is put behind the proxy anew. -/
def forwardedAnew : List (Action Script) :=
  [.forwardThrough (proxied 2) halvesStore, .updateStore (proxied 2) (proxied 3)]

/-- Nothing happens meanwhile. -/
def undisturbed : Run Script where
  world := halves
  scheduler := .watching {}
  subscribed := false
  actions := removalActions []
  unused := rfl
  allowed
    | 0, _, rfl | 1, _, rfl | 4, _, rfl | 6, _, rfl | 7, _, rfl | 8, _, rfl | 9, _, rfl
    | 10, _, rfl => ⟨by rintro _ ⟨⟩, by rintro _ ⟨⟩, by rintro _ ⟨⟩⟩
    | 5, _, rfl => ⟨by rintro _ ⟨⟩, by rintro _ ⟨⟩, by rintro _ ⟨⟩; decide +kernel⟩
    | 2, _, rfl | 3, _, rfl =>
      ⟨by rintro _ ⟨⟩, fun store presented => .given (by revert store; decide +kernel),
      by rintro _ ⟨⟩⟩

/-- The removal of a store that nobody touches is counted; the store is gone, and so
    is the region that was led from it. -/
theorem undisturbed_removed : undisturbed.countsRemoval 10 0 ∧
    (undisturbed.storesAt 11)[halvesStore.id]? = none ∧ ∃ region, undisturbed.caches 8 region ∧
      region.leader.store = halvesStore.id ∧ undisturbed.Lacks 11 region := by
  have drops : undisturbed.stageAt 10 0 = some (.drop (proxied 2)) := by decide +kernel
  have counted : undisturbed.countsRemoval 10 0 := countsRemoval_of_stageAt rfl drops
  obtain ⟨store, heard, evicted, removal, gone, complete, -⟩ := counted_removal counted
  obtain rfl := removal.eq_of_stageAt drops
  obtain ⟨rfl, rfl⟩ := removal.consecutive rfl rfl
  have leads : ((undisturbed.moment 8).client.cache.regions.get? ⟨2⟩).map (·.leader.store) =
      some halvesStore.id := by decide +kernel
  obtain ⟨region, present, led⟩ := Option.map_eq_some_iff.1 leads
  have cached : undisturbed.caches 8 region :=
    (undisturbed.wellFormed_moment 8).get?_id present
  exact ⟨counted, gone, region, cached, led,
    complete (by decide +kernel) region cached led fun k since until' => by omega⟩

/-- The store is put behind the proxy anew. -/
def disturbed : Run Script where
  world := halves
  scheduler := .watching {}
  subscribed := false
  actions := removalActions forwardedAnew
  unused := rfl
  allowed
    | 0, _, rfl | 1, _, rfl | 4, _, rfl | 6, _, rfl | 7, _, rfl | 10, _, rfl | 11, _, rfl
    | 12, _, rfl => ⟨by rintro _ ⟨⟩, by rintro _ ⟨⟩, by rintro _ ⟨⟩⟩
    | 5, _, rfl => ⟨by rintro _ ⟨⟩, by rintro _ ⟨⟩, by rintro _ ⟨⟩; decide +kernel⟩
    | 2, _, rfl | 3, _, rfl | 8, _, rfl | 9, _, rfl =>
      ⟨by rintro _ ⟨⟩, fun store presented => .given (by revert store; decide +kernel),
      by rintro _ ⟨⟩⟩

/-- The removal is counted, and yet a region is still cached that was led from the
    store when the tombstone was heard of. -/
theorem disturbed_led : disturbed.countsRemoval 12 0 ∧
    disturbed.Removal 0 (proxied 2) 10 11 12 ∧ ∃ region, disturbed.caches 10 region ∧
      region.leader.store = (proxied 2).id ∧ disturbed.caches 13 region := by
  have table := disturbed.wellFormed_moment
  have before : ((disturbed.moment 10).client.cache.regions.get? ⟨2⟩).map
      (fun region => (region.generation, region.leader.store)) = some (1, ⟨1⟩) := by decide +kernel
  have after : ((disturbed.moment 13).client.cache.regions.get? ⟨2⟩).map (·.generation) =
      some 1 := by decide +kernel
  obtain ⟨region, present, led⟩ := Option.map_eq_some_iff.1 before
  obtain ⟨left, still, same⟩ := Option.map_eq_some_iff.1 after
  obtain ⟨generation, leader⟩ := Prod.mk.inj led
  have cached : disturbed.caches 10 region := (table 10).get?_id present
  obtain rfl := eq_of_caches (by decide) cached still (beq_iff_eq.2 (same.trans generation.symm))
  have drops : disturbed.stageAt 12 0 = some (.drop (proxied 2)) := by decide +kernel
  have counted : disturbed.countsRemoval 12 0 := countsRemoval_of_stageAt rfl drops
  obtain ⟨store, heard, evicted, removal⟩ := exists_removal counted
  obtain rfl := removal.eq_of_stageAt drops
  obtain ⟨rfl, rfl⟩ := removal.consecutive rfl rfl
  exact ⟨counted, removal, left, cached, leader, (table 13).get?_id still⟩

end Run
end RegionRouting
