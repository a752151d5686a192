/-
  Region routing — the values of a run.

  * `Census.ListsScene`: a census has the values of a client, those of the
    rounds under way, and those given out;
  * `Action.Constructs` says what an action may construct, and
    `Census.ListsScene.play` that it adds this to the census, and nothing that is
    presented is new;
  * `Run.census`: so there is one at every moment of a run.
-/
import RegionRouting.Proofs.Census

namespace RegionRouting

variable {ω : Type}

theorem Scene.ok_of_resolved {α : Type} {out : Lookup.Outcome ω α} {a : α}
    (h : (Scene.resolved out).1 = some a) : out.1.1 = .ok a := by
  obtain ⟨⟨_ | b, budget⟩, client⟩ := out
  · cases h
  · cases h
    rfl

/-- The constructions of an action: those of a fetch or of a load, the one that is asked
    for, the one of a round that puts a store back without its proxy, or none. -/
def Action.Constructs : Action ω → List Construction → Prop
  | regionByKey _ _, made | regionById _ _, made => Construction.OfFetch made
  | storeById _ _, made => ∃ loaded : Option StoreDescriptor, made = loaded.toList.map .store
  | makeRegion descriptor leader stores, made => made = [.region descriptor leader stores]
  | switchLeader region host, made =>
    made = if (region.voters.find? (·.store == host)).isSome then [.successor region host] else []
  | makeStore descriptor, made => made = [.store descriptor]
  | forwardThrough store proxy, made => made = [.forwarded store proxy]
  | reconnect store, made => made = [.reconnected store]
  | stepRound _, made => ∃ direct : Option Store, made = direct.toList.map .reconnected
  | _, made => made = []

namespace Census

variable {census census' : Census} {scene : Scene ω}

/-- The census has every value that is known in a scene. -/
structure ListsScene (census : Census) (scene : Scene ω) : Prop
    extends census.Lists scene.client where
  rounds {round : Round} {store : Store} : round ∈ scene.rounds → store ∈ round.stores →
    .store store ∈ census.values
  givenRegions {region : Region} : region ∈ scene.regions → .region region ∈ census.values
  givenStores {store : Store} : store ∈ scene.stores → .store store ∈ census.values

namespace ListsScene

/-- What is presented is known. -/
theorem held (h : census.ListsScene scene) {store : Store} (held : scene.HoldsStore store) :
    .store store ∈ census.values := by
  induction held with
  | given member => exact h.givenStores member
  | inRound running member => exact h.rounds running member
  | ofRegion member refers => exact census.closed (h.givenRegions member) ⟨_, refers⟩
  | proxy _ forwards ih => exact census.closed ih forwards

/-! ## The next scene -/

theorem withClient (h : census.ListsScene scene) {client : Client ω} (lists : census.Lists client) :
    census.ListsScene (scene.withClient client) where
  toLists := lists
  rounds := h.rounds
  givenRegions := h.givenRegions
  givenStores := h.givenStores

theorem givesRegion (h : census.ListsScene scene) (more : census'.Extends census)
    {given : Option Region × Client ω} (lists : census'.Lists given.2)
    (known : ∀ region, given.1 = some region → .region region ∈ census'.values) :
    census'.ListsScene (scene.givesRegion given) where
  toLists := lists
  rounds running member := more.mem (h.rounds running member)
  givenRegions member := by
    rcases List.mem_append.1 member with before | last
    · exact more.mem (h.givenRegions before)
    · exact known _ (Option.mem_toList.1 last)
  givenStores member := more.mem (h.givenStores member)

theorem givesStore (h : census.ListsScene scene) (more : census'.Extends census)
    {given : Option Store × Client ω} (lists : census'.Lists given.2)
    (known : ∀ store, given.1 = some store → .store store ∈ census'.values) :
    census'.ListsScene (scene.givesStore given) where
  toLists := lists
  rounds running member := more.mem (h.rounds running member)
  givenRegions member := more.mem (h.givenRegions member)
  givenStores member := by
    rcases List.mem_append.1 member with before | last
    · exact more.mem (h.givenStores before)
    · exact known _ (Option.mem_toList.1 last)

/-- A value that was made is given out. -/
theorem makesRegion (h : census.ListsScene scene) (construction : Construction)
    (make : Ledger → Region × Ledger)
    (made : construction.make? scene.client.ledger.issued =
      some (.region (make scene.client.ledger).1))
    (issued : (make scene.client.ledger).2.issued = scene.client.ledger.issued + 1)
    (parts : ∀ part ∈ construction.parts, part ∈ census.values) :
    ∃ census' : Census, census.Records [construction] census' ∧
      census'.ListsScene (scene.givesRegion (Scene.made (scene.client.create make))) := by
  obtain ⟨census', recorded, region, lists⟩ := h.make construction made parts
  refine ⟨census', recorded, h.givesRegion recorded.grown ?_ (by rintro _ ⟨⟩; exact region)⟩
  exact ⟨lists.issued.trans issued.symm, lists.regions, lists.stores, lists.waiting⟩

theorem makesStore (h : census.ListsScene scene) (construction : Construction)
    (make : Ledger → Store × Ledger)
    (made : construction.make? scene.client.ledger.issued =
      some (.store (make scene.client.ledger).1))
    (issued : (make scene.client.ledger).2.issued = scene.client.ledger.issued + 1)
    (parts : ∀ part ∈ construction.parts, part ∈ census.values) :
    ∃ census' : Census, census.Records [construction] census' ∧
      census'.ListsScene (scene.givesStore (Scene.made (scene.client.create make))) := by
  obtain ⟨census', recorded, store, lists⟩ := h.make construction made parts
  refine ⟨census', recorded, h.givesStore recorded.grown ?_ (by rintro _ ⟨⟩; exact store)⟩
  exact ⟨lists.issued.trans issued.symm, lists.regions, lists.stores, lists.waiting⟩

theorem switchLeader (h : census.ListsScene scene) {region : Region} (host : StoreId)
    (known : .region region ∈ census.values) : ∃ (constructions : List Construction)
      (census' : Census), (Action.switchLeader region host : Action ω).Constructs constructions ∧
      census.Records constructions census' ∧
      census'.ListsScene (scene.givesRegion (scene.client.create (region.switchLeader host))) := by
  have create : scene.client.create (region.switchLeader host) =
      ((region.switchLeader host scene.client.ledger).1,
        { scene.client with ledger := (region.switchLeader host scene.client.ledger).2 }) := rfl
  rw [create]
  unfold Region.switchLeader
  split
  · next absent =>
    exact ⟨[], census, by simp [Action.Constructs, absent], .nothing,
      h.givesRegion (.refl census) h.toLists (by rintro _ ⟨⟩)⟩
  · next leader found =>
    have made : (Construction.successor region host).make? scene.client.ledger.issued =
        some (.region { region with leader, generation := scene.client.ledger.issued }) := by
      rw [Construction.make?_successor, found]
      rfl
    obtain ⟨census', recorded, successor, lists⟩ :=
      h.make (.successor region host) made (by simpa [Construction.parts] using known)
    refine ⟨_, census', by simp [Action.Constructs, found], recorded,
      h.givesRegion recorded.grown lists ?_⟩
    rintro _ ⟨⟩
    exact successor

theorem stepRound [Authority ω] [Prober ω] (h : census.ListsScene scene) (place : Nat)
    {round : Round} (running : round ∈ scene.rounds) :
    ∃ (direct : Option Store) (census' : Census),
      census.Records (direct.toList.map .reconnected) census' ∧
      census'.ListsScene (scene.stepRound place round) := by
  obtain ⟨direct, census', recorded, lists, known⟩ :=
    h.moves (round.moves scene.client) fun store member => h.rounds running member
  have more := recorded.grown
  refine ⟨direct, census', recorded, lists, fun {other store} among member => ?_,
    fun member => more.mem (h.givenRegions member), fun member => more.mem (h.givenStores member)⟩
  rcases List.mem_or_eq_of_mem_set among with before | rfl
  · exact more.mem (h.rounds before member)
  · exact known store member

theorem finishRound (h : census.ListsScene scene) (place : Nat) {round : Round}
    (running : round ∈ scene.rounds) : census.ListsScene (scene.finishRound place round) := by
  unfold Scene.finishRound
  split
  · refine ⟨h.withQueue fun store member => ?_, fun {other store} among member => ?_,
      h.givenRegions, h.givenStores⟩
    · rcases WatchQueue.mem_restore member with kept | before
      · exact h.rounds running (Round.mem_stores.2 (.inr (.inr kept)))
      · exact h.waiting (Scheduler.mem_waiting_of_queue before)
    · rcases List.mem_or_eq_of_mem_set among with before | rfl
      · exact h.rounds before member
      · simp [Round.mem_stores, Stage.stores] at member
  · exact h

theorem startRound (h : census.ListsScene scene) {client : Client ω} {round : Round}
    (lists : census.Lists client) (known : ∀ store ∈ round.stores, .store store ∈ census.values) :
    census.ListsScene { scene with client, rounds := scene.rounds ++ [round] } where
  toLists := lists
  rounds among member := by
    rcases List.mem_append.1 among with before | last
    · exact h.rounds before member
    · exact known _ (List.mem_singleton.1 last ▸ member)
  givenRegions := h.givenRegions
  givenStores := h.givenStores

/-- **One action.** What it makes is new to the census, and all else is known. -/
theorem play [Authority ω] [Prober ω] (h : census.ListsScene scene) {action : Action ω}
    (allows : scene.Allows action) :
    ∃ (constructions : List Construction) (census' : Census), action.Constructs constructions ∧
      census.Records constructions census' ∧ census'.ListsScene (scene.play action) := by
  have regions := fun region member => h.givenRegions (allows.regions region member)
  have stores := fun store member => h.held (allows.stores store member)
  have same {scene' : Scene ω} (lists : census.ListsScene scene')
      (nothing : action.Constructs []) : ∃ (constructions : List Construction) (census' : Census),
      action.Constructs constructions ∧ census.Records constructions census' ∧
        census'.ListsScene scene' :=
    ⟨[], census, nothing, .nothing, lists⟩
  cases action with
  | regionByKey key budget =>
    obtain ⟨_, census', fetch, recorded, more, lists, known⟩ :=
      Lookup.listed_regionByKey h.toLists key budget
    exact ⟨_, census', fetch, recorded, h.givesRegion more lists fun region given =>
      known region (Scene.ok_of_resolved given)⟩
  | regionById id budget =>
    obtain ⟨_, census', fetch, recorded, more, lists, known⟩ :=
      Lookup.listed_regionById h.toLists id budget
    exact ⟨_, census', fetch, recorded, h.givesRegion more lists fun region given =>
      known region (Scene.ok_of_resolved given)⟩
  | storeById id budget =>
    obtain ⟨loaded, census', recorded, lists, known⟩ := Lookup.listed_storeById h.toLists id budget
    exact ⟨_, census', ⟨loaded, rfl⟩, recorded,
      h.givesStore recorded.grown lists fun store given => known store (Scene.ok_of_resolved given)⟩
  | cachedRegion id =>
    exact same (h.givesRegion (.refl census) h.toLists fun _ given => h.regions given) rfl
  | cachedStore id =>
    exact same (h.givesStore (.refl census) h.toLists fun _ given => h.stores given) rfl
  | updateRegion expected replacement =>
    rw [Scene.play, Operation.run_updateRegion]
    have made := regions replacement (by simp [Action.regions])
    exact same (h.withClient (h.updateRegion expected made))
      rfl
  | updateStore old new =>
    exact same (h.withClient (h.updateStore old (stores new (by simp [Action.stores])))) rfl
  | invalidateRegion region => exact same (h.withClient (h.invalidateRegion region)) rfl
  | invalidateLedBy store => exact same (h.withClient (h.invalidateLedBy store)) rfl
  | invalidateStore id => exact same (h.withClient (h.invalidateStore id)) rfl
  | clear => exact same (h.withClient h.clear) rfl
  | makeRegion descriptor leader made =>
    obtain ⟨census', made⟩ := h.makesRegion (.region descriptor leader made)
      (Region.create descriptor leader made) rfl rfl
      (by simpa [Construction.parts, Action.stores] using stores)
    exact ⟨_, census', rfl, made⟩
  | switchLeader region host =>
    exact h.switchLeader host (regions region (by simp [Action.regions]))
  | makeStore descriptor =>
    obtain ⟨census', made⟩ := h.makesStore (.store descriptor) (Store.create descriptor)
      rfl rfl (by simp [Construction.parts])
    exact ⟨_, census', rfl, made⟩
  | forwardThrough store proxy =>
    obtain ⟨census', made⟩ := h.makesStore (.forwarded store proxy) (store.forwardThrough proxy) rfl
      (by simp only [Store.forwardThrough]; split <;> rfl)
      (by simpa [Construction.parts, Action.stores] using stores)
    exact ⟨_, census', rfl, made⟩
  | reconnect store =>
    obtain ⟨census', made⟩ := h.makesStore (.reconnected store) store.reconnect rfl rfl
      (by simpa [Construction.parts, Action.stores] using stores)
    exact ⟨_, census', rfl, made⟩
  | judge store reachable =>
    refine same (h.withClient (h.of_less ?_ id id id)) rfl
    cases reachable <;> rfl
  | schedule store =>
    refine same (h.withClient ⟨h.issued, h.regions, h.stores, fun handed => ?_⟩) rfl
    rcases Scheduler.mem_waiting_schedule handed with rfl | before
    · exact stores _ (by simp [Action.stores])
    · exact h.waiting before
  | beginRound drained =>
    refine same (h.startRound (h.withQueue fun store member => ?_) fun store member => ?_) rfl
    · obtain ⟨id, member⟩ := WatchQueue.mem_values.1 member
      simp at member
    · rcases Round.mem_stores.1 member with taken | ⟨⟨⟩⟩ | ⟨⟨⟩⟩
      have waiting := (allows.drained drained rfl).subset taken
      exact h.waiting (Scheduler.mem_waiting_of_queue waiting)
  | takeUp taken =>
    refine same (h.startRound h.toLists fun store member => ?_) rfl
    rcases Round.mem_stores.1 member with waiting | ⟨⟨⟩⟩ | ⟨⟨⟩⟩
    exact stores store waiting
  | stepRound place =>
    rw [Scene.play]
    cases running : scene.rounds[place]? with
    | none => exact same h ⟨none, rfl⟩
    | some round =>
      obtain ⟨direct, census', stepped⟩ := h.stepRound place (List.mem_of_getElem? running)
      exact ⟨_, census', ⟨direct, rfl⟩, stepped⟩
  | finishRound place =>
    rw [Scene.play]
    cases running : scene.rounds[place]? with
    | none => exact same h rfl
    | some round => exact same (h.finishRound place (List.mem_of_getElem? running)) rfl
  | elsewhere f => exact same (h.withClient ⟨h.issued, h.regions, h.stores, h.waiting⟩) rfl

end ListsScene
end Census

namespace Run

variable [Authority ω] [Prober ω] (run : Run ω)

/-- No values are known at the start. -/
theorem census_start : Census.empty.ListsScene (run.moment 0) := by
  refine ⟨⟨rfl, fun present => ?_, fun present => ?_, fun handed => ?_⟩, ?_, ?_, ?_⟩
  · simp [moment, Scene.after, Scene.start] at present
  · simp [moment, Scene.after, Scene.start] at present
  · simp [moment, Scene.after, Scene.start, run.unused] at handed
  · rintro round store ⟨⟩
  · rintro region ⟨⟩
  · rintro store ⟨⟩

/-- At every moment of a run there is a census of its values. -/
theorem census (i : Nat) : ∃ census : Census, census.ListsScene (run.moment i) := by
  refine run.induct (P := fun scene => ∃ census : Census, census.ListsScene scene) ?_ ?_ i
  · exact ⟨.empty, run.census_start⟩
  · rintro scene action allows ⟨census, lists⟩
    obtain ⟨_, census', -, -, lists'⟩ := lists.play allows
    exact ⟨census', lists'⟩

variable {run} in
/-- A census of one moment extends to a census of any later one. -/
theorem census_of_le {i j : Nat} (h : i ≤ j) {census : Census}
    (lists : census.ListsScene (run.moment i)) :
    ∃ census' : Census, census'.Extends census ∧ census'.ListsScene (run.moment j) := by
  induction h with
  | refl => exact ⟨census, .refl census, lists⟩
  | @step j _ ih =>
    obtain ⟨census', more, lists'⟩ := ih
    cases played : run.actions[j]? with
    | none => exact ⟨census', more, by rwa [Nat.succ_eq_add_one, run.moment_succ_of_none played]⟩
    | some action =>
      obtain ⟨_, later, -, recorded, lists''⟩ := lists'.play (run.moment_allows played)
      exact ⟨later, more.trans recorded.grown,
        by rwa [Nat.succ_eq_add_one, run.moment_succ played]⟩

/-- Generations are given out, and never taken back. -/
theorem issued_mono {i j : Nat} (h : i ≤ j) :
    (run.moment i).client.ledger.issued ≤ (run.moment j).client.ledger.issued := by
  obtain ⟨census, lists⟩ := run.census i
  obtain ⟨census', more, lists'⟩ := census_of_le h lists
  rw [← lists.issued, ← lists'.issued]
  exact more.length_le

end Run
end RegionRouting
