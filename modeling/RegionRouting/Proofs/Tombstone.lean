/-
  Region routing — tombstoned stores.

  A store that the authority has removed for good is called tombstoned.  No
  lookup returns such a store, alone, in a pair with a region, or among the
  stores of a region that it fetches.  That holds whatever others do between
  the acts of a lookup, and whatever the authority answers: a cached value and
  a new one are both looked at.

  * `MayYield` of each lookup: what it may find is not tombstoned;
  * `Client.Learns`: calls were placed, and the stores that were added are alive
    and were asked for;
  * `Run.source_of_store`: where a cached store comes from; a tombstoned one can
    come from an update alone;
  * `tombstones_excluded`: all this together, and that a store which was not
    cached is asked for again.
-/
import RegionRouting.Proofs.Census
import RegionRouting.Proofs.MayReturn
import RegionRouting.Proofs.StoreSwap
import RegionRouting.Proofs.Supply
import RegionRouting.Router

namespace RegionRouting

variable {ω : Type}

/-! ## What lookups find -/

namespace Lookup

variable [Authority ω] {id : StoreId} {store : Store} {region : Region}

/-- A cached store and a new one are both looked at. -/
theorem MayYield.alive_of_loadStore (h : MayYield (loadStore (ω := ω) id) (some store)) :
    store.isTombstone = false := by
  obtain ⟨_ | cached, -, h⟩ := h.of_bind
  · obtain ⟨_, -, h⟩ := h.of_bind
    obtain ⟨descriptor, -, h⟩ := h.of_bind
    obtain ⟨made, -, h⟩ := h.of_bind
    split at h
    · cases mayYield_pure.1 h
    · next alive =>
      obtain ⟨_, -, h⟩ := h.of_bind
      cases mayYield_pure.1 h
      exact Bool.eq_false_iff.2 alive
  · have found := mayYield_pure.1 h
    split at found
    · cases found
    · next alive =>
      cases found
      exact Bool.eq_false_iff.2 alive

theorem MayYield.alive_of_loadStores {peers : List Peer} {stores : List Store}
    (h : MayYield (loadStores (ω := ω) peers) stores) :
    ∀ store ∈ stores, store.isTombstone = false := by
  induction peers generalizing stores with
  | nil =>
    cases mayYield_pure.1 h
    exact fun store member => nomatch member
  | cons peer peers ih =>
    obtain ⟨found, first, h⟩ := h.of_bind
    obtain ⟨rest, later, h⟩ := h.of_bind
    cases mayYield_pure.1 h
    intro store member
    rcases List.mem_append.1 member with here | there
    · cases Option.mem_toList.1 here
      exact first.alive_of_loadStore
    · exact ih later store there

theorem MayYield.alive_of_storeById (h : MayYield (storeById (ω := ω) id) store) :
    store.isTombstone = false := by
  obtain ⟨_ | found, first, h⟩ := h.of_bind
  · exact absurd h not_mayYield_throw
  · cases mayYield_pure.1 h
    exact first.of_exclusively.alive_of_loadStore

theorem MayYield.alive_of_findStore (h : MayYield (findStore (ω := ω) id) (some store)) :
    store.isTombstone = false := by
  rcases h.of_tryCatch with h | ⟨error, h⟩
  · obtain ⟨found, first, same⟩ := h.of_map
    cases same
    exact first.alive_of_storeById
  · -- what is caught comes to no store
    split at h
    · cases mayYield_pure.1 h
    · cases mayYield_pure.1 h
    · exact absurd h not_mayYield_throw

theorem MayYield.alive_of_findLabelled {label : StoreLabel} {peers : List Peer}
    (h : MayYield (findLabelled (ω := ω) label peers) (some store)) :
    store.isTombstone = false := by
  induction peers with
  | nil => cases mayYield_pure.1 h
  | cons peer peers ih =>
    obtain ⟨_ | found, first, h⟩ := h.of_bind
    · exact ih h
    · dsimp only at h
      split at h
      · cases mayYield_pure.1 h
        exact first.alive_of_findStore
      · exact ih h

theorem MayYield.alive_of_servingStore {kind : StoreKind} {selector : ReplicaSelector}
    (h : MayYield (servingStore (ω := ω) region kind selector) (some store)) :
    store.isTombstone = false := by
  unfold servingStore at h
  split at h
  · exact h.alive_of_findStore
  · exact h.alive_of_findLabelled

theorem MayYield.alive_of_route {key : Key} {kind : StoreKind} {selector : ReplicaSelector}
    (h : MayYield (route (ω := ω) key kind selector) (region, store)) :
    store.isTombstone = false := by
  obtain ⟨owner, -, h⟩ := h.of_bind
  obtain ⟨_ | found, serving, h⟩ := h.of_bind
  · obtain ⟨_, -, h⟩ := h.of_bind
    exact absurd h not_mayYield_throw
  · cases mayYield_pure.1 h
    exact serving.alive_of_servingStore

/-- A region that is fetched refers to stores that were loaded for it. -/
theorem MayYield.alive_of_fetch {query : RegionQuery} {evicted : List Region}
    (h : MayYield (fetch (ω := ω) query) (region, evicted))
    (refers : region.stores[id]? = some store) : store.isTombstone = false := by
  rw [fetch_eq] at h
  obtain ⟨_, -, h⟩ := h.of_bind
  obtain ⟨answer, -, h⟩ := h.of_bind
  obtain ⟨stores, loaded, h⟩ := h.of_bind
  obtain ⟨made, creates, h⟩ := h.of_bind
  obtain ⟨ledger, eq⟩ := creates.of_create
  have inserted : region = made := by
    have of_insert (h : MayYield (insert (ω := ω) made) (region, evicted)) : region = made := by
      obtain ⟨_, -, h⟩ := h.of_bind
      obtain ⟨_, -, h⟩ := h.of_bind
      cases mayYield_pure.1 h
      rfl
    dsimp only at h
    split at h
    · obtain ⟨_, h, -⟩ := h.of_bind
      exact absurd h not_mayYield_throw
    · exact of_insert h
  rw [inserted, eq] at refers
  exact loaded.alive_of_loadStores store (Region.mem_of_create ⟨id, refers⟩)

end Lookup

/-! ## What lookups leave -/

/-- From one client to the other calls were placed, and each store that was added
    is alive and was asked for. -/
structure Client.Learns (client : Client (Observed ω)) (placed : List Call)
    (client' : Client (Observed ω)) : Prop where
  calls : client'.world.calls = client.world.calls ++ placed
  stores : ∀ {id : StoreId} {store : Store}, client'.cache.stores[id]? = some store →
    client.cache.stores[id]? = some store ∨ store.isTombstone = false ∧ Call.store id ∈ placed

namespace Client.Learns

variable {client client₁ client₂ : Client (Observed ω)} {placed placed' : List Call}

/-- Where the stores stay, calls may be placed. -/
theorem of_stores (calls : client₁.world.calls = client.world.calls ++ placed)
    (same : client₁.cache.stores = client.cache.stores) : client.Learns placed client₁ where
  calls := calls
  stores present := .inl (same ▸ present)

theorem refl (client : Client (Observed ω)) : client.Learns [] client :=
  of_stores (List.append_nil _).symm rfl

theorem trans (h : client.Learns placed client₁) (h' : client₁.Learns placed' client₂) :
    client.Learns (placed ++ placed') client₂ where
  calls := by rw [h'.calls, h.calls, List.append_assoc]
  stores {id store} present := by
    rcases h'.stores present with before | ⟨alive, asked⟩
    · rcases h.stores before with earlier | ⟨alive, asked⟩
      · exact .inl earlier
      · exact .inr ⟨alive, List.mem_append_left _ asked⟩
    · exact .inr ⟨alive, List.mem_append_right _ asked⟩

end Client.Learns

namespace Lookup

variable [Authority ω] {budget : Backoffer} {client : Client (Observed ω)}

/-- What a call leaves of the world says that it was placed. -/
theorem calls_of_answer {α : Type} {call : Call} {attempt : Observed ω → Attempt α × Observed ω}
    {update : Update} {result : Except RouteError α × Backoffer} {world : Observed ω}
    (silent : ∀ world, (attempt world).2.calls = world.calls)
    (answer : (ask call attempt).outcome budget (client.record update) =
      (result, heard client update world)) : world.calls = client.world.calls ++ [call] := by
  have placed := calls_ask budget (client.record update) call silent
  rwa [answer] at placed

/-- A store that is not cached is asked for, and then it is cached if it is
    alive. -/
theorem LoadsStore.learns {id : StoreId} {out : Outcome (Observed ω) (Option Store)}
    (h : LoadsStore id budget client out) :
    client.Learns (if client.cache.stores[id]?.isSome then [] else [.store id]) out.2 := by
  cases h with
  | cached present =>
    rw [present]
    exact .refl client
  | failed absent answer =>
    rw [absent]
    exact .of_stores (calls_of_answer (fun _ => rfl) answer) rfl
  | tombstoned absent answer =>
    rw [absent]
    exact .of_stores (calls_of_answer (fun _ => rfl) answer) rfl
  | fetched absent answer alive =>
    rw [absent]
    refine ⟨calls_of_answer (fun _ => rfl) answer, fun {other store} present => ?_⟩
    rw [Client.withStores, Std.ExtTreeMap.getElem?_insert] at present
    split at present
    · next same =>
      cases present
      obtain rfl := Std.LawfulEqCmp.compare_eq_iff_eq.1 same
      exact .inr ⟨beq_eq_false_iff_ne.2 alive, List.mem_singleton_self _⟩
    · exact .inl present

theorem LoadsStores.learns {peers : List Peer} {out : Outcome (Observed ω) (List Store)}
    (h : LoadsStores peers budget client out) : ∃ placed, client.Learns placed out.2 := by
  induction h with
  | nil => exact ⟨_, .refl _⟩
  | cons first _ ih | later first _ ih =>
    obtain ⟨placed, rest⟩ := ih
    exact ⟨_, first.learns.trans rest⟩
  | first failure => exact ⟨_, failure.learns⟩

theorem Fetches.learns {query : RegionQuery} {out : Outcome (Observed ω) (Region × List Region)}
    (h : Fetches query budget client out) : ∃ placed, client.Learns placed (announce out).2 := by
  have asks {result : Except RouteError (RegionDescriptor × Peer) × Backoffer}
      {world : Observed ω} (answer : (askRegion query).outcome budget (client.record .regionFetch) =
        (result, heard client .regionFetch world)) :
      client.Learns [.region query] (heard client .regionFetch world) :=
    .of_stores (calls_of_answer (fun _ => rfl) answer) rfl
  cases h with
  | failed answer => exact ⟨_, asks answer⟩
  | storeless answer failure =>
    obtain ⟨_, loaded⟩ := failure.learns
    exact ⟨_, (asks answer).trans loaded⟩
  | invalid answer loaded =>
    obtain ⟨_, loaded⟩ := loaded.learns
    exact ⟨_, (asks answer).trans ⟨loaded.calls, loaded.stores⟩⟩
  | cached answer loaded =>
    obtain ⟨_, loaded⟩ := loaded.learns
    rw [announce, Client.announceEvicted_eq]
    exact ⟨_, (asks answer).trans ⟨loaded.calls, loaded.stores⟩⟩

theorem learns_regionById (id : RegionId) (budget : Backoffer) (client : Client (Observed ω)) :
    ∃ placed, client.Learns placed ((regionById id).outcome budget client).2 := by
  cases h : client.cache.regions.get? id with
  | some region =>
    rw [outcome_regionById_hit budget h]
    exact ⟨[], .refl client⟩
  | none =>
    rw [outcome_regionById_miss budget h]
    exact (fetches _ _ client).learns

theorem learns_regionByKey (key : Key) (budget : Backoffer) (client : Client (Observed ω)) :
    ∃ placed, client.Learns placed ((regionByKey key).outcome budget client).2 := by
  cases h : client.cache.regions.find? key with
  | some region =>
    rw [outcome_regionByKey_hit budget h]
    exact ⟨[], .of_stores (List.append_nil _).symm rfl⟩
  | none =>
    rw [outcome_regionByKey_miss budget h]
    obtain ⟨placed, learnt⟩ := (fetches (.byKey key) budget
      ((client.record .lookup).record .miss)).learns
    exact ⟨placed, learnt.calls, learnt.stores⟩

theorem learns_storeById (id : StoreId) (budget : Backoffer) (client : Client (Observed ω)) :
    ∃ placed, client.Learns placed ((storeById id).outcome budget client).2 := by
  rw [outcome_storeById_snd]
  exact ⟨_, (loadsStore id budget client).learns⟩

end Lookup

/-! ## Where cached stores come from -/

/-- Is the action a lookup? -/
def Action.isLookup : Action ω → Bool
  | regionByKey .. | regionById .. | storeById .. => true
  | _ => false

theorem Scene.learns_play [Authority ω] [Prober ω] {scene : Scene (Observed ω)}
    {action : Action (Observed ω)} (lookup : action.isLookup) :
    ∃ placed, scene.client.Learns placed (scene.play action).client := by
  cases action with
  | regionByKey key budget => exact Lookup.learns_regionByKey key budget scene.client
  | regionById id budget => exact Lookup.learns_regionById id budget scene.client
  | storeById id budget => exact Lookup.learns_storeById id budget scene.client
  | _ => cases lookup

section
variable {id : StoreId} {store : Store}

/-- A store is cached after an update if it was before, or if the update is
    applied and puts it in. -/
theorem Client.stores_updateStore {client : Client ω} {old new : Store}
    (present : (client.updateStore old new).2.cache.stores[id]? = some store) :
    client.cache.stores[id]? = some store ∨
      new = store ∧ store.id = id ∧ (client.updateStore old new).1 = true := by
  cases applied : (client.updateStore old new).1 with
  | false =>
    rw [client.updateStore_snd_of_refused old new applied] at present
    exact .inl present
  | true =>
    rw [client.getElem?_updateStore_of_applied old new applied] at present
    split at present
    · next same =>
      cases present
      exact .inr ⟨rfl, same.symm, rfl⟩
    · exact .inl present

theorem Client.stores_invalidateStore {client : Client ω} {dropped : StoreId}
    (present : (client.invalidateStore dropped).2.cache.stores[id]? = some store) :
    client.cache.stores[id]? = some store := by
  obtain ⟨_, _, _, eq⟩ := client.invalidateStore_snd dropped
  rw [eq, Std.ExtTreeMap.getElem?_erase] at present
  exact (Option.ite_none_left_eq_some.1 present).2

/-- What is no lookup brings a store into the cache as an update alone. -/
theorem Scene.stores_play [Authority ω] [Prober ω] {scene : Scene ω} {action : Action ω}
    (lookup : action.isLookup = false)
    (present : (scene.play action).client.cache.stores[id]? = some store) :
    scene.client.cache.stores[id]? = some store ∨ ∃ old,
      scene.storeUpdate? action = some (old, store) ∧ store.id = id ∧
        (scene.client.updateStore old store).1 = true := by
  cases action with
  | regionByKey | regionById | storeById => cases lookup
  | updateStore old new =>
    rcases Client.stores_updateStore present with before | ⟨rfl, same, applied⟩
    · exact .inl before
    · exact .inr ⟨old, rfl, same, applied⟩
  | invalidateStore => exact .inl (Client.stores_invalidateStore present)
  | stepRound place =>
    rw [Scene.play] at present
    cases running : scene.rounds[place]? with
    | none =>
      rw [running] at present
      exact .inl present
    | some round =>
      rw [running, Option.elim_some, Scene.stepRound] at present
      have moved := round.moves scene.client
      generalize (round.step scene.client).2 = next at moved present
      obtain ⟨round', client'⟩ := next
      cases moved with
      | settles | makes => exact .inl present
      | evicts => exact .inl (by simpa using present)
      | drops => exact .inl (Client.stores_invalidateStore present)
      | @installs old new _ stage =>
        rcases Client.stores_updateStore present with before | ⟨rfl, same, applied⟩
        · exact .inl before
        · refine .inr ⟨old, ?_, same, applied⟩
          rw [Scene.storeUpdate?, running, Option.bind_some, stage, Stage.storeUpdate?]
  | beginRound => exact .inl ((scene.client.cache_withQueue _) ▸ present)
  | finishRound place =>
    rw [Scene.play] at present
    cases running : scene.rounds[place]? with
    | none =>
      rw [running] at present
      exact .inl present
    | some round =>
      rw [running, Option.elim_some, Scene.finishRound] at present
      split at present
      · exact .inl ((scene.client.cache_withQueue _) ▸ present)
      · exact .inl present
  | updateRegion | invalidateRegion | invalidateLedBy | clear =>
    exact .inl (by simpa [Scene.play, Scene.withClient] using present)
  | cachedRegion | cachedStore | makeRegion | switchLeader | makeStore | forwardThrough | reconnect
  | judge | schedule | takeUp | elsewhere => exact .inl present

end

namespace Run

variable [Authority ω] [Prober ω] (run : Run (Observed ω)) {i j : Nat} {id : StoreId}
  {store : Store}

/-- Is the action at a moment a lookup that asks the authority about a store? -/
def asksStore (i : Nat) (id : StoreId) : Prop :=
  ∃ action placed, run.actions[i]? = some action ∧ action.isLookup ∧
    (run.moment (i + 1)).client.world.calls = (run.moment i).client.world.calls ++ placed ∧
    Call.store id ∈ placed

/-- Does the action at a moment put a value under an id, in an update that is
    applied? -/
def installsStore (i : Nat) (id : StoreId) : Prop :=
  ∃ old new, run.swaps i old new ∧ new.id = id

variable {run}

/-- **Sources.** A cached store was cached before; or it comes from an update; or it
    is alive, and a lookup asked for it. -/
theorem source_of_store (present : (run.storesAt (i + 1))[id]? = some store) :
    (run.storesAt i)[id]? = some store ∨ (∃ old, run.swaps i old store ∧ store.id = id) ∨
      store.isTombstone = false ∧ run.asksStore i id := by
  unfold storesAt at present
  cases played : run.actions[i]? with
  | none =>
    rw [run.moment_succ_of_none played] at present
    exact .inl present
  | some action =>
    cases lookup : action.isLookup with
    | false =>
      rw [run.moment_succ played] at present
      rcases Scene.stores_play lookup present with before | ⟨old, update, same, applied⟩
      · exact .inl before
      · exact .inr (.inl ⟨old, ⟨⟨action, played, update⟩, applied⟩, same⟩)
    | true =>
      obtain ⟨placed, learnt⟩ := (run.moment i).learns_play lookup
      rw [← run.moment_succ played] at learnt
      rcases learnt.stores present with before | ⟨alive, asked⟩
      · exact .inl before
      · exact .inr (.inr ⟨alive, action, placed, played, lookup, learnt.calls, asked⟩)

/-- A store that is not cached is not cached until a lookup asks for it, or an
    update puts a value under its id. -/
theorem absent_of_le (absent : (run.storesAt i)[id]? = none) (le : i ≤ j)
    (unasked : ∀ k, i ≤ k → k < j → ¬run.asksStore k id)
    (uninstalled : ∀ k, i ≤ k → k < j → ¬run.installsStore k id) :
    (run.storesAt j)[id]? = none := by
  induction le with
  | refl => exact absent
  | @step j le ih =>
    have before := ih (fun k since until' => unasked k since (Nat.lt_succ_of_lt until'))
      fun k since until' => uninstalled k since (Nat.lt_succ_of_lt until')
    refine Option.eq_none_iff_forall_ne_some.2 fun store present => ?_
    rcases source_of_store present with cached | ⟨old, swap, same⟩ | ⟨-, asked⟩
    · cases before.symm.trans cached
    · exact uninstalled j le (Nat.lt_succ_self j) ⟨old, store, swap, same⟩
    · exact unasked j le (Nat.lt_succ_self j) asked

end Run

/-! ## Tombstones are excluded -/

/-- What a lookup with a fresh budget may return, it may find. -/
theorem RoutingConfig.mayYield_of_request {α : Type} {config : RoutingConfig} {lookup : Lookup ω α}
    {a : α} (h : (config.request lookup).MayReturn (.ok a)) : lookup.MayYield a := by
  obtain ⟨⟨result, budget⟩, found, same⟩ := Routine.mayReturn_bind.1 h
  obtain rfl := Routine.mayReturn_done.1 same
  exact ⟨_, budget, found⟩

/-- No lookup, whatever happens meanwhile, finds a tombstoned store; in no run does
    a lookup cache one; and what was refused is asked for again. -/
structure ExcludesTombstones (ω : Type) [Authority ω] [Prober ω] : Prop where
  /-- the store of an id is not tombstoned -/
  storeById (id : StoreId) (store : Store) :
    (Lookup.storeById (ω := ω) id).MayYield store → store.isTombstone = false
  /-- nor is the store that serves a request -/
  route (key : Key) (kind : StoreKind) (selector : ReplicaSelector) (region : Region)
    (store : Store) : (Lookup.route (ω := ω) key kind selector).MayYield (region, store) →
      store.isTombstone = false
  /-- nor is it under a configured selector -/
  resolve (router : Router ω) (key : Key) (kind : StoreKind) (region : Region) (store : Store) :
    (router.resolve key kind).MayReturn (.ok (region, store)) → store.isTombstone = false
  /-- nor is any store of a region that was fetched -/
  fetch (query : RegionQuery) (region : Region) (evicted : List Region) (id : StoreId)
    (store : Store) : (Lookup.fetch (ω := ω) query).MayYield (region, evicted) →
      region.stores[id]? = some store → store.isTombstone = false
  /-- a tombstoned answer is no failure, and leaves the cache as it was -/
  refused (client : Client ω) (id : StoreId) (budget budget' : Backoffer)
    (descriptor : StoreDescriptor) (client' : Client ω) : client.cache.stores[id]? = none →
      (Lookup.askStore id).outcome budget (client.record .storeFetch) =
        ((.ok descriptor, budget'), client') → descriptor.state = .tombstone →
      ((Lookup.loadStore id).outcome budget client).1.1 = .ok none ∧
        ((Lookup.loadStore id).outcome budget client).2.cache = client.cache
  /-- only an update brings a tombstoned store into the cache -/
  entered (run : Run (Observed ω)) (i : Nat) (id : StoreId) (store : Store) :
    (run.storesAt (i + 1))[id]? = some store → store.isTombstone →
      (run.storesAt i)[id]? = some store ∨ ∃ old, run.swaps i old store ∧ store.id = id
  /-- a store that is not cached is asked for by the next lookup of it, if no update has
      put a value under its id by then -/
  asked (run : Run (Observed ω)) (i j : Nat) (id : StoreId) :
    (run.storesAt i)[id]? = none → i ≤ j →
      (∀ k, i ≤ k → k < j → ¬run.asksStore k id) →
      (∀ k, i ≤ k → k < j → ¬run.installsStore k id) →
      ∀ budget, ((Lookup.storeById id).outcome budget (run.moment j).client).2.world.calls =
        (run.moment j).client.world.calls ++ [.store id]

open Lookup in
/-- A store that is not cached is asked for. -/
theorem Lookup.calls_storeById [Authority ω] {client : Client (Observed ω)} {id : StoreId}
    (absent : client.cache.stores[id]? = none) (budget : Backoffer) :
    ((storeById id).outcome budget client).2.world.calls = client.world.calls ++ [.store id] := by
  have learnt := (loadsStore id budget client).learns
  rw [absent] at learnt
  rw [outcome_storeById_snd]
  exact learnt.calls

open Lookup in
/-- **Tombstone exclusion.** -/
theorem tombstones_excluded (ω : Type) [Authority ω] [Prober ω] : ExcludesTombstones ω where
  storeById _ _ h := h.alive_of_storeById
  route _ _ _ _ _ h := h.alive_of_route
  resolve _ _ _ _ _ h := (RoutingConfig.mayYield_of_request h).alive_of_route
  fetch _ _ _ _ _ h refers := h.alive_of_fetch refers
  refused client id budget budget' descriptor client' absent answer dead := by
    have loaded := loadsStore id budget client
    generalize (loadStore id).outcome budget client = out at loaded ⊢
    cases loaded with
    | cached present => cases absent.symm.trans present
    | failed _ failure => cases answer.symm.trans failure
    | tombstoned => exact ⟨rfl, rfl⟩
    | fetched _ fetched alive =>
      cases answer.symm.trans fetched
      exact absurd dead alive
  entered run i id store present dead := by
    rcases Run.source_of_store present with before | update | ⟨alive, -⟩
    · exact .inl before
    · exact .inr update
    · exact absurd dead (Bool.eq_false_iff.1 alive)
  asked run i j id absent le unasked uninstalled budget :=
    calls_storeById (Run.absent_of_le absent le unasked uninstalled) budget

end RegionRouting
