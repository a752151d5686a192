/-
  Region routing — when updates of stores swap values.

  An update of a store presents the value that its caller has seen, and is
  refused if that value is cached no more.  It looks under the id of the old
  value, and writes under the id of the new one: so it swaps the two exactly
  if these ids are one.

  * `Swapped` and `Untouched` say what a swap and a refusal should come to;
  * `Run.store_swap` says when they do, and what becomes of an update between
    two ids; an update of one id loses no other value, and no later update
    that presents the same old value is applied;
  * `Run.crossing_loses`: between two ids a value is lost, and one old value is
    presented twice with success.
-/
import Mathlib.Data.Nat.Init
import RegionRouting.Proofs.RunCensus
import RegionRouting.Proofs.StoreChange
import RegionRouting.Simulation.Script

namespace RegionRouting

variable {ω : Type}

/-- The slot of the old value's id held the old value, and holds the new one;
    every other slot is as it was. -/
structure Swapped (before after : Client ω) (old new : Store) : Prop where
  held : before.cache.stores[old.id]? = some old
  holds : after.cache.stores[old.id]? = some new
  others : ∀ id, id ≠ old.id → after.cache.stores[id]? = before.cache.stores[id]?

/-- Stores, judgements and scheduler are as they were. -/
structure Untouched (before after : Client ω) : Prop where
  stores : after.cache.stores = before.cache.stores
  ledger : after.ledger = before.ledger
  scheduler : after.scheduler = before.scheduler

/-- A refused update leaves all but the counters as it was. -/
theorem Untouched.of_refused {client : Client ω} {old new : Store}
    (refused : (client.updateStore old new).1 = false) :
    Untouched client (client.updateStore old new).2 := by
  rw [client.updateStore_snd_of_refused old new refused]
  exact ⟨rfl, rfl, rfl⟩

namespace Run

variable [Authority ω] [Prober ω] (run : Run ω) {i j : Nat} {old new new' store : Store}

/-- The stores that are cached at a moment. -/
def storesAt (i : Nat) : Std.ExtTreeMap StoreId Store :=
  (run.moment i).client.cache.stores

/-- Does the action at a moment update a store, be it a caller's or a round's? -/
def updates (i : Nat) (old new : Store) : Prop :=
  ∃ action, run.actions[i]? = some action ∧
    (run.moment i).storeUpdate? action = some (old, new)

/-- Is there such an update, and is it applied? -/
def swaps (i : Nat) (old new : Store) : Prop :=
  run.updates i old new ∧
    ((Operation.updateStore old new).run (run.moment i).client).1 = true

/-- Does every update present a new value of a generation that was never cached
    before? -/
def FreshStores : Prop :=
  ∀ i old new, run.updates i old new → ∀ j ≤ i, ∀ (id : StoreId) cached,
    (run.storesAt j)[id]? = some cached → cached.generation ≠ new.generation

variable {run}

/-! ## One update -/

/-- The old value of an update is known to those who make it. -/
theorem holdsStore_of_updates (h : run.updates i old new) : (run.moment i).HoldsStore old := by
  obtain ⟨action, played, update⟩ := h
  cases action with
  | updateStore =>
    cases update
    exact (run.moment_allows played).stores old (List.mem_cons_self ..)
  | stepRound place =>
    obtain ⟨round, running, update⟩ := Option.bind_eq_some_iff.1 update
    refine .inRound (List.mem_of_getElem? running) (Round.mem_stores.2 (.inr (.inl ?_)))
    rw [Stage.storeUpdate?_eq_some.1 update]
    exact List.mem_cons_self ..
  | _ => cases update

/-- An action that updates a store leaves the client as the operation does. -/
theorem moment_succ_of_updates (h : run.updates i old new) :
    (run.moment (i + 1)).client =
      ((Operation.updateStore old new).run (run.moment i).client).2 := by
  obtain ⟨action, played, update⟩ := h
  rw [run.moment_succ played]
  cases action with
  | updateStore =>
    cases update
    rfl
  | stepRound place =>
    obtain ⟨round, running, update⟩ := Option.bind_eq_some_iff.1 update
    rw [Scene.play, running, Option.elim_some, Scene.stepRound, Round.step,
      Stage.storeUpdate?_eq_some.1 update]
    rfl
  | _ => cases update

/-- An update that is applied finds the value that it presents. -/
theorem held_of_applied (held : (run.moment i).HoldsStore old)
    (applied : ((run.moment i).client.updateStore old new).1 = true) :
    (run.storesAt i)[old.id]? = some old := by
  rw [Client.updateStore_fst, Cache.holdsStore, Option.any_eq_true] at applied
  obtain ⟨cached, present, same⟩ := applied
  obtain ⟨census, lists⟩ := run.census i
  cases census.eq_of_generation (lists.stores present) (lists.held held) (beq_iff_eq.1 same)
  exact present

/-- **Exactness.** An applied update swaps the values if they are of one id, and
    not otherwise. -/
theorem swapped_iff (held : (run.moment i).HoldsStore old)
    (applied : ((run.moment i).client.updateStore old new).1 = true) :
    Swapped (run.moment i).client ((run.moment i).client.updateStore old new).2 old new ↔
      new.id = old.id := by
  have before := held_of_applied held applied
  have after := (run.moment i).client.getElem?_updateStore_of_applied old new applied
  constructor
  · rintro ⟨-, holds, -⟩
    rw [after] at holds
    split at holds
    · next same => exact same.symm
    · exact congrArg Store.id (Option.some.inj (holds.symm.trans before))
  · intro same
    refine ⟨before, ?_, fun id other => ?_⟩
    · rw [after, if_pos same.symm]
    · rw [after, if_neg (same ▸ other)]

/-- Between two ids the old value stays, the new one takes the place of another,
    and the old one may be presented again. -/
theorem crossed (held : (run.moment i).HoldsStore old)
    (applied : ((run.moment i).client.updateStore old new).1 = true) (cross : new.id ≠ old.id) :
    let client := ((run.moment i).client.updateStore old new).2
    client.cache.stores[old.id]? = some old ∧ client.cache.stores[new.id]? = some new ∧
      ∀ new', (client.updateStore old new').1 = true := by
  have before := held_of_applied held applied
  have after := (run.moment i).client.getElem?_updateStore_of_applied old new applied
  have stays : ((run.moment i).client.updateStore old new).2.cache.stores[old.id]? = some old := by
    rw [after, if_neg cross.symm]
    exact before
  refine ⟨stays, by rw [after, if_pos rfl], fun new' => ?_⟩
  rw [Client.updateStore_fst, Cache.holdsStore, stays]
  simp [Store.isSame]

/-! ## A run of updates -/

/-- A value that was cached under its id and is no more does not come back. -/
theorem cached_of_cached_succ (fresh : run.FreshStores)
    (h : (run.storesAt i)[store.id]? = some store) (le : i ≤ j)
    (after : (run.storesAt (j + 1))[store.id]? = some store) :
    (run.storesAt j)[store.id]? = some store := by
  unfold storesAt at after
  cases played : run.actions[j]? with
  | none => rwa [run.moment_succ_of_none played] at after
  | some action =>
    have change := (effect_play (run.moment j) action).storeChange
    rw [← run.moment_succ played] at change
    generalize (run.moment (j + 1)).client.cache.stores = stores at change after
    cases change with
    | kept => exact after
    | grown grown =>
      rcases grown.loaded after with before | new
      · exact before
      · -- a value that is fetched is newer than all that was cached
        obtain ⟨census, lists⟩ := run.census i
        have made := census.generation_lt (lists.stores h)
        rw [lists.issued] at made
        exact absurd (Nat.lt_of_lt_of_le made (run.issued_mono le)) (Nat.not_lt.2 new)
    | swapped presented =>
      rw [Std.ExtTreeMap.getElem?_insert] at after
      split at after
      · cases after
        exact absurd rfl (fresh j _ _ ⟨action, played, presented⟩ i le _ _ h)
      · exact after
    | dropped =>
      rw [Std.ExtTreeMap.getElem?_erase] at after
      exact (Option.ite_none_left_eq_some.1 after).2

theorem cached_of_le {k : Nat} (fresh : run.FreshStores)
    (h : (run.storesAt i)[store.id]? = some store) (le : i ≤ j) (le' : j ≤ k)
    (later : (run.storesAt k)[store.id]? = some store) :
    (run.storesAt j)[store.id]? = some store := by
  refine Nat.decreasingInduction' (P := fun n => (run.storesAt n)[store.id]? = some store) ?_
    le' later
  intro n _ since after
  exact cached_of_cached_succ fresh h (Nat.le_trans le since) after

/-- **Swaps of stores.** A refused update leaves the stores, the judgements and
    the scheduler as they are.  An applied one swaps the values exactly if they
    are of one id; between two ids it leaves the old value where it is, so that
    presenting it again is applied again.  An applied update of one id takes
    away the value that it presents and no other, and if new values were never
    cached before, it is the last to be applied for its old value. -/
theorem store_swap (run : Run ω) :
    (∀ i old new, (run.moment i).HoldsStore old →
      let client := (run.moment i).client
      let out := (Operation.updateStore old new).run client
      (out.1 = false → Untouched client out.2) ∧
      (out.1 = true → (Swapped client out.2 old new ↔ new.id = old.id)) ∧
      (out.1 = true → new.id ≠ old.id → out.2.cache.stores[old.id]? = some old ∧
        out.2.cache.stores[new.id]? = some new ∧
        ∀ new', ((Operation.updateStore old new').run out.2).1 = true)) ∧
    (∀ i old new, run.swaps i old new → new.id = old.id → ∀ (id : StoreId) store,
      (run.storesAt i)[id]? = some store → store ≠ old →
        (run.storesAt (i + 1))[id]? = some store) ∧
    (run.FreshStores → ∀ i j old new new', i < j → run.swaps i old new → run.swaps j old new' →
      new.id ≠ old.id) := by
  have swapped {i : Nat} {old new : Store} (swaps : run.swaps i old new)
      (same : new.id = old.id) :
      Swapped (run.moment i).client (run.moment (i + 1)).client old new := by
    rw [moment_succ_of_updates swaps.1]
    exact (swapped_iff (holdsStore_of_updates swaps.1) swaps.2).2 same
  refine ⟨fun i old new held => ⟨Untouched.of_refused, swapped_iff held, crossed held⟩, ?_, ?_⟩
  · intro i old new swaps same id store present other
    have swap := swapped swaps same
    by_cases here : id = old.id
    · subst here
      exact absurd (Option.some.inj (present.symm.trans swap.held)) other
    · exact (swap.others id here).trans present
  · intro fresh i j old new new' lt swaps later same
    have swap := swapped swaps same
    -- the new value stands under the id, and is not the one it has replaced
    have distinct := fresh i old new swaps.1 i (Nat.le_refl i) _ _ swap.held
    have held := held_of_applied (holdsStore_of_updates later.1) later.2
    have back := cached_of_le fresh swap.held (Nat.le_succ i) lt held
    exact distinct (congrArg Store.generation (Option.some.inj (back.symm.trans swap.holds)))

/-! ## An update between two ids -/

/-- The nodes of two ids. -/
def nearNode : StoreDescriptor :=
  { id := ⟨1⟩, address := "near", labels := [], state := .up }

def farNode : StoreDescriptor :=
  { id := ⟨2⟩, address := "far", labels := [], state := .up }

/-- A world that knows both. -/
def twoNodes : Script where
  stores := ((∅ : Std.ExtTreeMap StoreId StoreDescriptor).insert ⟨1⟩ nearNode).insert ⟨2⟩ farNode

/-- Two stores are cached; then the first is presented twice, each time with a
    new value for the second. -/
def crossingActions : List (Action Script) :=
  [.storeById ⟨1⟩ {}, .storeById ⟨2⟩ {}, .makeStore farNode, .makeStore farNode,
    .updateStore (.direct nearNode 0) (.direct farNode 2),
    .updateStore (.direct nearNode 0) (.direct farNode 3)]

theorem crossing_allowed : ∀ i action, crossingActions[i]? = some action →
    ((Scene.start twoNodes .unwatched false).after (crossingActions.take i)).Allows action
  | 0, _, rfl | 1, _, rfl | 2, _, rfl | 3, _, rfl =>
    ⟨by rintro _ ⟨⟩, by rintro _ ⟨⟩, by rintro _ ⟨⟩⟩
  | 4, _, rfl | 5, _, rfl =>
    ⟨by rintro _ ⟨⟩, fun store presented => .given (by revert store; decide +kernel),
      by rintro _ ⟨⟩⟩

def crossing : Run Script where
  world := twoNodes
  scheduler := .unwatched
  subscribed := false
  actions := crossingActions
  unused := Scheduler.waiting_unwatched
  allowed := crossing_allowed

theorem crossing_fresh : crossing.FreshStores := by
  have first : ∀ j ≤ 4, ∀ entry ∈ (crossing.storesAt j).toList, entry.2.generation < 2 := by
    decide +kernel
  have second : ∀ j ≤ 5, ∀ entry ∈ (crossing.storesAt j).toList, entry.2.generation < 3 := by
    decide +kernel
  rintro i old new ⟨action, played, update⟩ j le id cached present
  have entry := Std.ExtTreeMap.mem_toList_iff_getElem?_eq_some.2 present
  match i with
  | 4 =>
    cases played
    cases update
    exact Nat.ne_of_lt (first j le _ entry)
  | 5 =>
    cases played
    cases update
    exact Nat.ne_of_lt (second j le _ entry)
  | 0 | 1 | 2 | 3 =>
    cases played
    cases update
  | _ + 6 => cases played

/-- Every new value is fresh, and yet the first store is presented twice with
    success, its slot is left alone, and a value that nobody presented is lost. -/
theorem crossing_loses : crossing.FreshStores ∧
    crossing.swaps 4 (.direct nearNode 0) (.direct farNode 2) ∧
    crossing.swaps 5 (.direct nearNode 0) (.direct farNode 3) ∧
    ¬Swapped (crossing.moment 4).client (crossing.moment 5).client (.direct nearNode 0)
      (.direct farNode 2) ∧
    (crossing.storesAt 4)[farNode.id]? = some (.direct farNode 1) ∧
    (crossing.storesAt 5)[farNode.id]? = some (.direct farNode 2) := by
  refine ⟨crossing_fresh, ⟨⟨_, rfl, rfl⟩, ?_⟩, ⟨⟨_, rfl, rfl⟩, ?_⟩, fun swap => ?_, ?_, ?_⟩
  case refine_3 => exact absurd swap.holds (by decide +kernel)
  all_goals decide +kernel

end Run
end RegionRouting
