/-
  Region routing — what a step of a round does.

  * `Round.stores` are the store values that a round has to do with;
  * `Round.Moves` lists what a step may do to the round and to the client, and
    `Round.moves` says that the list is complete.
-/
import RegionRouting.Health.Checker
import RegionRouting.Proofs.Client

namespace RegionRouting

/-- The store values that a stage has to do with. -/
def Stage.stores : Stage → List Store
  | .examine => []
  | .call store | .ask store _ | .evict store | .drop store | .probe store
  | .listen store => [store]
  | .install store direct => [store, direct]

namespace Round

/-- The store values that a round has to do with. -/
def stores (round : Round) : List Store :=
  round.waiting ++ round.stage.stores ++ round.kept

theorem mem_stores {round : Round} {store : Store} : store ∈ round.stores ↔
    store ∈ round.waiting ∨ store ∈ round.stage.stores ∨ store ∈ round.kept := by
  rw [stores, List.mem_append, List.mem_append, or_assoc]

theorem stores_settle_subset (round : Round) (count : Tally → Tally) :
    (round.settle count).stores ⊆ round.stores := by
  intro store h
  rw [mem_stores] at h ⊢
  obtain waiting | stage | kept := h
  · exact .inl waiting
  · cases stage
  · exact .inr (.inr kept)

theorem stores_keep_subset {round : Round} {store : Store} (known : store ∈ round.stage.stores) :
    (round.keep store).stores ⊆ round.stores := by
  intro other h
  rw [mem_stores] at h ⊢
  obtain waiting | stage | kept := h
  · exact .inl waiting
  · cases stage
  · obtain kept | last := List.mem_append.1 kept
    · exact .inr (.inr kept)
    · exact .inr (.inl (List.mem_singleton.1 last ▸ known))

variable {ω : Type}

/-- What a step may do: it changes the world alone; it drops regions, or a
    store; it makes a value without a proxy; or it installs one.  Only the
    value that is made is new to the round. -/
inductive Moves (round : Round) (client : Client ω) : Round → Client ω → Prop
  | settles {round' : Round} {world : ω} (known : round'.stores ⊆ round.stores) :
      Moves round client round' { client with world }
  | evicts {store : Store} {round' : Round} (stage : round.stage = .evict store)
      (known : round'.stores ⊆ round.stores) :
      Moves round client round' (client.invalidateLedBy store).2
  | drops {store : Store} {round' : Round} (stage : round.stage = .drop store)
      (known : round'.stores ⊆ round.stores) :
      Moves round client round' (client.invalidateStore store.id).2
  | makes {store : Store} {round' : Round} {world : ω} (stage : round.stage = .listen store)
      (known : round'.stores ⊆ .direct store.descriptor client.ledger.issued :: round.stores) :
      Moves round client round' { client with world, ledger := client.ledger.issue.2 }
  | installs {store direct : Store} {round' : Round} (stage : round.stage = .install store direct)
      (known : round'.stores ⊆ round.stores) :
      Moves round client round' (client.updateStore store direct).2

variable [Authority ω] [Prober ω]

theorem moves (round : Round) (client : Client ω) :
    round.Moves client (round.step client).2.1 (round.step client).2.2 := by
  obtain ⟨waiting, stage, kept, tally⟩ := round
  cases stage with
  | examine =>
    cases waiting with
    | nil => exact .settles (List.Subset.refl _)
    | cons store waiting =>
      refine .settles fun other h => ?_
      simp only [step, examine] at h
      split at h
      all_goals
        simp only [mem_stores, settle, Stage.stores, List.mem_cons, List.not_mem_nil] at h ⊢
        grind
  | call store => exact .settles (List.Subset.refl _)
  | ask store budget =>
    simp only [step, ask]
    split
    · refine .settles fun other h => ?_
      simp only [mem_stores] at h ⊢
      split at h <;> exact h
    · exact .settles (stores_keep_subset (List.mem_singleton_self store))
    · split
      · exact .settles (stores_keep_subset (List.mem_singleton_self store))
      · exact .settles (List.Subset.refl _)
  | evict store => exact .evicts rfl (List.Subset.refl _)
  | drop store => exact .drops rfl (stores_settle_subset _ _)
  | probe store => exact .settles (List.Subset.refl _)
  | listen store =>
    simp only [step, listen]
    split
    · have made : ((client.onWorld (Prober.answers store)).2.create store.reconnect).1 =
        .direct store.descriptor client.ledger.issued := rfl
      refine .makes rfl fun other h => ?_
      simp only [mem_stores, Stage.stores, List.mem_cons, List.not_mem_nil] at h ⊢
      grind
    · exact .settles (stores_keep_subset (List.mem_singleton_self store))
  | install store direct => exact .installs rfl (stores_settle_subset _ _)

end Round

/-- A queue is replaced only where there is one. -/
theorem Client.withQueue_eq {ω : Type} (client : Client ω) (queue : WatchQueue) :
    ∃ scheduler, client.withQueue queue = { client with scheduler } ∧
      (scheduler = client.scheduler ∨ scheduler = .watching queue) := by
  unfold withQueue
  split
  · exact ⟨_, rfl, .inr rfl⟩
  · exact ⟨_, rfl, .inl rfl⟩

theorem Client.cache_withQueue {ω : Type} (client : Client ω) (queue : WatchQueue) :
    (client.withQueue queue).cache = client.cache := by
  obtain ⟨_, eq, _⟩ := client.withQueue_eq queue
  rw [eq]

theorem Client.ledger_withQueue {ω : Type} (client : Client ω) (queue : WatchQueue) :
    (client.withQueue queue).ledger = client.ledger := by
  obtain ⟨_, eq, _⟩ := client.withQueue_eq queue
  rw [eq]

end RegionRouting
