/-
  Region routing — which values are judged unreachable.

  Values are judged by their generations, and a value that is made now has none that
  was judged before.

  * `Ledger.Sound`: no generation is judged unreachable before it is given out;
  * `Run.sound_moment`: so it is at every moment of a run.
-/
import RegionRouting.Proofs.RunCensus

namespace RegionRouting

variable {ω : Type}

/-- Only values that were made are judged unreachable. -/
def Ledger.Sound (ledger : Ledger) : Prop :=
  ∀ store, ledger.reaches store = false → store.generation < ledger.issued

namespace Ledger.Sound

variable {ledger ledger' : Ledger}

/-- Fewer values may be judged so, and more may be made. -/
theorem of_less (h : ledger.Sound)
    (judged : ∀ store, ledger'.reaches store = false → ledger.reaches store = false)
    (issued : ledger.issued ≤ ledger'.issued) : ledger'.Sound := fun store unreachable =>
  Nat.lt_of_lt_of_le (h store (judged store unreachable)) issued

theorem issue (h : ledger.Sound) : ledger.issue.2.Sound :=
  h.of_less (fun _ => id) (Nat.le_succ _)

theorem markReachable (h : ledger.Sound) (store : Store) : (ledger.markReachable store).Sound := by
  refine h.of_less (fun other unreachable => ?_) (Nat.le_refl _)
  rw [reaches_markReachable] at unreachable
  exact (Bool.or_eq_false_iff.1 unreachable).2

/-- A store value that was made may be judged unreachable. -/
theorem markUnreachable (h : ledger.Sound) {store : Store}
    (made : store.generation < ledger.issued) :
    (ledger.markUnreachable store).Sound := by
  intro other unreachable
  rw [reaches_markUnreachable] at unreachable
  rcases Bool.and_eq_false_iff.1 unreachable with same | before
  · have one : store.generation = other.generation := by simpa [Store.isSame] using same
    exact one ▸ made
  · exact h other before

theorem grows {client client' : Client ω} (h : client.ledger.Sound) (grown : client.Grows client') :
    client'.ledger.Sound := by
  refine h.of_less (fun store unreachable => ?_) grown.issued
  rwa [reaches, grown.unreachable] at unreachable

theorem resolves {client client' : Client ω} {result : Except RouteError Region}
    (h : client.ledger.Sound) (resolved : Lookup.Resolves client result client') :
    client'.ledger.Sound := by
  cases resolved with
  | cached => exact h
  | fetched grown =>
    have grew := h.grows grown
    rw [Client.announceEvicted_eq]
    exact grew
  | failed grown => exact h.grows grown

theorem updateStore {client : Client ω} (h : client.ledger.Sound) (old : Store) {new : Store}
    (made : new.generation < client.ledger.issued) :
    (client.updateStore old new).2.ledger.Sound := by
  cases applied : (client.updateStore old new).1 with
  | false =>
    rw [client.updateStore_snd_of_refused old new applied]
    exact h
  | true =>
    rw [client.ledger_updateStore_of_applied old new applied]
    split
    · exact (h.markReachable old).markUnreachable made
    · exact h.markReachable old

theorem invalidateStore {client : Client ω} (h : client.ledger.Sound) (id : StoreId) :
    (client.invalidateStore id).2.ledger.Sound := by
  rw [client.ledger_invalidateStore]
  cases client.cache.stores[id]? with
  | none => exact h
  | some store => exact h.markReachable store

theorem moves [Authority ω] [Prober ω] {client client' : Client ω} {round round' : Round}
    (h : client.ledger.Sound) (moved : round.Moves client round' client')
    (made : ∀ store ∈ round.stores, store.generation < client.ledger.issued) :
    client'.ledger.Sound := by
  cases moved with
  | settles => exact h
  | evicts =>
    obtain ⟨_, _, eq⟩ := client.invalidateLedBy_snd _
    rw [eq]
    exact h
  | drops => exact h.invalidateStore _
  | makes => exact h.issue
  | installs stage =>
    refine h.updateStore _ (made _ ?_)
    simp [Round.mem_stores, stage, Stage.stores]

/-- **One action** judges no value unreachable but one that was made. -/
theorem play [Authority ω] [Prober ω] {scene : Scene ω} {census : Census}
    (h : scene.client.ledger.Sound) (lists : census.ListsScene scene) {action : Action ω}
    (allows : scene.Allows action) : (scene.play action).client.ledger.Sound := by
  have made {store : Store} (known : .store store ∈ census.values) :
      store.generation < scene.client.ledger.issued := lists.issued ▸ census.generation_lt known
  have presented {store : Store} (member : store ∈ action.stores) :
      store.generation < scene.client.ledger.issued :=
    made (lists.held (allows.stores store member))
  cases action with
  | regionByKey key budget => exact h.resolves (Lookup.resolves_regionByKey key budget _)
  | regionById id budget => exact h.resolves (Lookup.resolves_regionById id budget _)
  | storeById id budget => exact h.grows (Lookup.grows_storeById id budget _)
  | updateRegion expected replacement =>
    rw [Scene.play, Operation.run_updateRegion]
    obtain ⟨_, _, eq⟩ := scene.client.updateRegion_snd expected replacement
    rw [Scene.withClient, eq]
    exact h
  | updateStore old new => exact h.updateStore old (presented (by simp [Action.stores]))
  | invalidateRegion region =>
    rw [Scene.play, Operation.run_invalidateRegion]
    obtain ⟨_, _, eq⟩ := scene.client.invalidateRegion_snd region
    rw [Scene.withClient, eq]
    exact h
  | invalidateLedBy store =>
    rw [Scene.play, Operation.run_invalidateLedBy]
    obtain ⟨_, _, eq⟩ := scene.client.invalidateLedBy_snd store
    rw [Scene.withClient, eq]
    exact h
  | invalidateStore id => exact h.invalidateStore id
  | clear =>
    rw [Scene.play, Operation.run_clear]
    obtain ⟨_, _, eq⟩ := scene.client.clear_eq
    rw [Scene.withClient, eq]
    exact h
  | makeRegion | makeStore | reconnect => exact h.issue
  | switchLeader region store =>
    change (region.switchLeader store scene.client.ledger).2.Sound
    unfold Region.switchLeader
    split
    · exact h
    · exact h.issue
  | forwardThrough store proxy =>
    change (store.forwardThrough proxy scene.client.ledger).2.Sound
    unfold Store.forwardThrough
    dsimp only
    split
    · exact h.issue
    · exact h.issue.markUnreachable (Nat.lt_succ_self _)
  | judge store reachable =>
    cases reachable with
    | true => exact h.markReachable store
    | false => exact h.markUnreachable (presented (by simp [Action.stores]))
  | cachedRegion | cachedStore | schedule | takeUp | elsewhere => exact h
  | beginRound =>
    change (scene.client.withQueue {}).ledger.Sound
    rw [Client.ledger_withQueue]
    exact h
  | stepRound place =>
    rw [Scene.play]
    cases running : scene.rounds[place]? with
    | none => exact h
    | some round =>
      exact h.moves (round.moves scene.client) fun store member =>
        made (lists.rounds (List.mem_of_getElem? running) member)
  | finishRound place =>
    rw [Scene.play]
    cases scene.rounds[place]? with
    | none => exact h
    | some round =>
      rw [Option.elim_some, Scene.finishRound]
      split
      · change (scene.client.withQueue _).ledger.Sound
        rw [Client.ledger_withQueue]
        exact h
      · exact h

end Ledger.Sound

theorem Run.sound_moment [Authority ω] [Prober ω] (run : Run ω) :
    ∀ i, (run.moment i).client.ledger.Sound
  | 0 => by
    intro store unreachable
    simp [moment, Scene.after, Scene.start, Ledger.reaches] at unreachable
  | i + 1 => by
    cases played : run.actions[i]? with
    | none => exact run.moment_succ_of_none played ▸ run.sound_moment i
    | some action =>
      obtain ⟨census, lists⟩ := run.census i
      rw [run.moment_succ played]
      exact (run.sound_moment i).play lists (run.moment_allows played)

end RegionRouting
