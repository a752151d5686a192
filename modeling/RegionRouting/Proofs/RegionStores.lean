/-
  Region routing — the stores of a fetched region.

  A region refers to the stores of its peers by the ids that the stores themselves
  have, and the cache has them by the ids that they were asked for.  These are
  the same, as long as the authority tells of the store that it was asked for.
  Then a region that is fetched has just those stores of its peers that are cached
  when it is returned, save the tombstoned.

  * `Client.Keyed`: each cached store is under its own id; `Run.keyed_moment`: so it
    stays while what is told is `Truthful`;
  * `Region.getElem?_create`: which stores a new region refers to;
  * `Client.Gathers` says what a lookup has fetched, and `Run.fetched_stores` puts
    this together for every moment of a run.
-/
import RegionRouting.Proofs.FailedLookup
import RegionRouting.Proofs.Tombstone

namespace RegionRouting

variable {ω : Type}

/-! ## True answers -/

/-- An answer about a store is about the store that was asked for. -/
def Entry.Truthful : Entry → Prop
  | toldStore id descriptor => descriptor.id = id
  | asked _ | toldRegion _ => True

instance : DecidablePred Entry.Truthful
  | .toldStore id descriptor => inferInstanceAs (Decidable (descriptor.id = id))
  | .asked _ | .toldRegion _ => .isTrue trivial

/-- All that was told about stores so far was about the store that was asked for. -/
def Logged.Truthful (logged : Logged ω) : Prop :=
  ∀ entry ∈ logged.log, entry.Truthful

instance : DecidablePred (Logged.Truthful (ω := ω)) := fun logged =>
  inferInstanceAs (Decidable (∀ entry ∈ logged.log, entry.Truthful))

/-- Each cached store is cached under its own id. -/
def Client.Keyed (client : Client ω) : Prop :=
  ∀ (id : StoreId) (store : Store), client.cache.stores[id]? = some store → store.id = id

/-- Stores were loaded, and the replies are written down. -/
def Client.Hears (client client' : Client (Logged ω)) : Prop :=
  ∃ ids replies,
    Gains client.cache.stores client.ledger.issued ids replies client'.cache.stores ∧
      replies.entries ⊆ client'.world.log

theorem Replies.toldStore_mem {replies : Replies} {id : StoreId} {descriptor : StoreDescriptor}
    (told : (id, descriptor) ∈ replies) : .toldStore id descriptor ∈ replies.entries :=
  List.mem_flatMap.2 ⟨_, told, by simp⟩

namespace Client

variable {client client' : Client (Logged ω)}

theorem Hears.of_stores (same : client'.cache.stores = client.cache.stores) :
    client.Hears client' :=
  ⟨[], [], same ▸ .nil, List.nil_subset _⟩

/-- Truthful answers are cached under their ids. -/
theorem Hears.keyed (h : client.Hears client') (keyed : client.Keyed)
    (truthful : client'.world.Truthful) : client'.Keyed := by
  obtain ⟨ids, replies, gains, heard⟩ := h
  intro id store present
  rcases (gains.cached id store).1 present with before | ⟨descriptor, generation, told, -, rfl⟩
  · exact keyed id store before
  · exact truthful _ (heard (Replies.toldStore_mem (List.fst_mem_of_mem_zipIdx told)))

end Client

/-! ## The stores of a new region -/

/-- A region refers to the stores that it was made with, by their ids, if no two of
    them share one. -/
theorem Region.getElem?_create {region : Region} {descriptor : RegionDescriptor} {leader : Peer}
    {stores : List Store} {ledger : Ledger} {id : StoreId} {store : Store}
    (made : region = (create descriptor leader stores ledger).1)
    (distinct : ∀ a ∈ stores, ∀ b ∈ stores, a.id = b.id → a = b) :
    region.stores[id]? = some store ↔ store ∈ stores ∧ store.id = id := by
  subst made
  let entries := stores.map fun store => (store.id, store)
  let pick (entry : StoreId × Store) : Option Store :=
    if compare entry.1 id = .eq then some entry.2 else none
  have picked {entry : StoreId × Store} {other : Store} :
      entry ∈ entries.reverse → pick entry = some other → other ∈ stores ∧ other.id = id := by
    intro member found
    obtain ⟨made, known, rfl⟩ := List.mem_map.1 (List.mem_reverse.1 member)
    obtain ⟨own, ⟨⟩⟩ := Option.ite_none_right_eq_some.1 found
    exact ⟨known, Std.LawfulEqCmp.compare_eq_iff_eq.1 own⟩
  change (Std.ExtTreeMap.ofList entries)[id]? = _ ↔ _
  rw [Std.ExtTreeMap.ofList_eq_insertMany_empty, Std.ExtTreeMap.getElem?_insertMany_list,
    List.findSomeRev?_eq_findSome?_reverse, Std.ExtTreeMap.getElem?_empty, Option.or_none]
  constructor
  · intro found
    obtain ⟨entry, member, found⟩ := List.exists_of_findSome?_eq_some found
    exact picked member found
  · rintro ⟨member, rfl⟩
    have listed : (store.id, store) ∈ entries.reverse :=
      List.mem_reverse.2 (List.mem_map.2 ⟨store, member, rfl⟩)
    cases found : entries.reverse.findSome? pick with
    | none =>
      have passed := List.findSome?_eq_none_iff.1 found _ listed
      simp [pick] at passed
    | some other =>
      obtain ⟨entry, among, found⟩ := List.exists_of_findSome?_eq_some found
      obtain ⟨known, same⟩ := picked among found
      exact congrArg some (distinct other known store member same)

/-! ## Fetching a region -/

/-- The region was fetched.  It refers to just those stores of its peers that are
    cached by now and are not tombstoned.  Stores were asked for one by one, none
    of them again once it was told of as alive; a store of a peer that the region
    lacks is cached as tombstoned, or has been told of as such, and never
    otherwise. -/
structure Client.Gathers (client : Client (Logged ω)) (query : RegionQuery) (region : Region)
    (client' : Client (Logged ω)) : Prop where
  stores (id : StoreId) (store : Store) : region.stores[id]? = some store ↔
    (∃ peer ∈ region.peers, peer.store = id) ∧ client'.cache.stores[id]? = some store ∧
      store.isTombstone = false
  calls : ∃ replies,
    client'.world.log = client.world.log ++
      (.asked (.region query) :: .toldRegion region.placement :: replies.entries) ∧
    Gains client.cache.stores client.ledger.issued (region.peers.map (·.store)) replies
      client'.cache.stores ∧
    ∀ peer ∈ region.peers, region.stores[peer.store]? = none →
      (∃ store, client'.cache.stores[peer.store]? = some store ∧ store.isTombstone = true) ∨
      (∃ descriptor, (peer.store, descriptor) ∈ replies) ∧
        ∀ descriptor, (peer.store, descriptor) ∈ replies → descriptor.state = .tombstone

namespace Lookup

variable [Authority ω] {client client' : Client (Logged ω)} {budget budget' : Backoffer}
  {query : RegionQuery} {region : Region} {evicted : List Region}

/-- A region that was fetched is made of what was told of it, and of the stores of
    its peers that are cached then and are alive. -/
theorem Fetches.gathered
    (h : Fetches query budget client ((.ok (region, evicted), budget'), client')) :
    ∃ replies stores ledger,
      client'.world.log = client.world.log ++
        (.asked (.region query) :: .toldRegion region.placement :: replies.entries) ∧
      Gains client.cache.stores client.ledger.issued (region.peers.map (·.store)) replies
        client'.cache.stores ∧
      (∀ store, store ∈ stores ↔ ∃ peer ∈ region.peers,
        client'.cache.stores[peer.store]? = some store ∧ store.isTombstone = false) ∧
      region = (Region.create region.descriptor region.leader stores ledger).1 := by
  generalize result : (Except.ok (region, evicted) : Except RouteError _) = answer at h
  cases h with
  | failed | storeless | invalid => cases result
  | cached answer loaded made =>
    cases result
    cases made
    obtain ⟨replies, loads, members⟩ := loaded.loads rfl
    exact ⟨replies, _, _, log_of_region answer loads.log, loads.gains, members, rfl⟩

/-- Where stores are cached under their own ids, a region that was fetched has just
    those of its peers. -/
theorem Fetches.gathers
    (h : Fetches query budget client ((.ok (region, evicted), budget'), client'))
    (keyed : client'.Keyed) : client.Gathers query region client' := by
  obtain ⟨replies, stores, ledger, log, gains, members, made⟩ := h.gathered
  have distinct : ∀ a ∈ stores, ∀ b ∈ stores, a.id = b.id → a = b := by
    intro a known b known' same
    obtain ⟨peer, -, present, -⟩ := (members a).1 known
    obtain ⟨peer', -, present', -⟩ := (members b).1 known'
    rw [keyed _ a present, keyed _ b present'] at same
    rw [same] at present
    exact Option.some.inj (present.symm.trans present')
  have refers (id : StoreId) (store : Store) : region.stores[id]? = some store ↔
      (∃ peer ∈ region.peers, peer.store = id) ∧ client'.cache.stores[id]? = some store ∧
        store.isTombstone = false := by
    rw [Region.getElem?_create made distinct, members]
    constructor
    · rintro ⟨⟨peer, among, present, alive⟩, rfl⟩
      have same := keyed _ store present
      exact ⟨⟨peer, among, same.symm⟩, same ▸ present, alive⟩
    · rintro ⟨⟨peer, among, rfl⟩, present, alive⟩
      exact ⟨⟨peer, among, present, alive⟩, keyed _ store present⟩
  refine ⟨refers, replies, log, gains, fun peer among lacking => ?_⟩
  cases present : client'.cache.stores[peer.store]? with
  | some store =>
    refine .inl ⟨store, rfl, ?_⟩
    by_contra alive
    have there := (refers peer.store store).2
      ⟨⟨peer, among, rfl⟩, present, Bool.eq_false_iff.2 alive⟩
    cases lacking.symm.trans there
  | none =>
    refine .inr ⟨?_, fun descriptor told => ?_⟩
    · exact gains.asked (List.mem_map.2 ⟨peer, among, rfl⟩) (gains.vacant_before present)
    · by_contra alive
      obtain ⟨generation, there⟩ := gains.cached_of_alive told alive
      cases present.symm.trans there

/-! ## What lookups hear -/

end Lookup

theorem Client.Spares.hears {client client' : Client (Logged ω)} {query : RegionQuery}
    {error : RouteError} (h : client.Spares query error client') : client.Hears client' := by
  obtain ⟨loaded, replies, entries, fails, log, gains⟩ := h.gained
  have written : replies.entries ⊆ entries := by
    cases fails with
    | region => exact List.nil_subset _
    | store => exact fun entry told => by simp [told]
    | invalid => exact fun entry told => by simp [told]
  refine ⟨_, replies, gains, fun entry told => ?_⟩
  rw [log]
  exact List.mem_append_right _ (written told)

namespace Lookup

variable [Authority ω] {budget : Backoffer} {client : Client (Logged ω)}

theorem hears_storeById (id : StoreId) (budget : Backoffer) (client : Client (Logged ω)) :
    client.Hears ((storeById id).outcome budget client).2 := by
  rw [outcome_storeById_snd]
  have loaded := loadsStore id budget client
  generalize (loadStore id).outcome budget client = out at loaded ⊢
  obtain ⟨⟨_ | found, budget'⟩, client'⟩ := out
  · exact .of_stores loaded.falters.1
  · obtain ⟨replies, loads, -⟩ := loaded.loads
    refine ⟨_, replies, loads.gains, fun entry told => ?_⟩
    rw [loads.log]
    exact List.mem_append_right _ told

theorem Fetches.hears {query : RegionQuery} {out : Outcome (Logged ω) (Region × List Region)}
    (h : Fetches query budget client out) : client.Hears (announce out).2 := by
  obtain ⟨⟨_ | ⟨region, evicted⟩, budget'⟩, client'⟩ := out
  · exact h.spares.hears
  · obtain ⟨replies, _, _, log, gains, -, -⟩ := h.gathered
    rw [announce, Client.announceEvicted_eq]
    refine ⟨_, replies, gains, fun entry told => ?_⟩
    change entry ∈ client'.world.log
    simp [log, told]

theorem hears_regionById (id : RegionId) (budget : Backoffer) (client : Client (Logged ω)) :
    client.Hears ((regionById id).outcome budget client).2 := by
  cases found : client.cache.regions.get? id with
  | some region =>
    rw [outcome_regionById_hit budget found]
    exact .of_stores rfl
  | none =>
    rw [outcome_regionById_miss budget found]
    exact (fetches (.byId id) budget client).hears

theorem hears_regionByKey (key : Key) (budget : Backoffer) (client : Client (Logged ω)) :
    client.Hears ((regionByKey key).outcome budget client).2 := by
  cases found : client.cache.regions.find? key with
  | some region =>
    rw [outcome_regionByKey_hit budget found]
    exact .of_stores rfl
  | none =>
    rw [outcome_regionByKey_miss budget found]
    exact (fetches (.byKey key) budget ((client.record .lookup).record .miss)).hears

/-- What a fetch announces is no matter for the stores. -/
theorem Fetches.gathers_announce {query : RegionQuery} {region : Region}
    {out : Outcome (Logged ω) (Region × List Region)} (h : Fetches query budget client out)
    (ok : (announce out).1.1 = .ok region) (keyed : client.Keyed)
    (truthful : (announce out).2.world.Truthful) :
    client.Gathers query region (announce out).2 := by
  have keyed' := h.hears.keyed keyed truthful
  obtain ⟨⟨_ | ⟨region, evicted⟩, budget'⟩, client'⟩ := out
  · cases ok
  · cases ok
    rw [announce, Client.announceEvicted_eq] at keyed' ⊢
    have gathered := h.gathers keyed'
    exact ⟨gathered.stores, gathered.calls⟩

end Lookup

/-! ## Fetched regions in a run -/

variable [Authority ω] [Prober ω]

theorem Scene.hears_play {scene : Scene (Logged ω)} {action : Action (Logged ω)}
    (lookup : action.isLookup) : scene.client.Hears (scene.play action).client := by
  cases action with
  | regionByKey key budget => exact Lookup.hears_regionByKey key budget scene.client
  | regionById id budget => exact Lookup.hears_regionById id budget scene.client
  | storeById id budget => exact Lookup.hears_storeById id budget scene.client
  | _ => cases lookup

/-- **One action.** Updates put stores under their own ids, and so do lookups, if what
    they are told is true. -/
theorem Scene.keyed_play {scene : Scene (Logged ω)} {action : Action (Logged ω)}
    (keyed : scene.client.Keyed) (truthful : (scene.play action).client.world.Truthful) :
    (scene.play action).client.Keyed := by
  cases lookup : action.isLookup with
  | true => exact (Scene.hears_play lookup).keyed keyed truthful
  | false =>
    intro id store present
    rcases Scene.stores_play lookup present with before | ⟨_, _, same, _⟩
    · exact keyed id store before
    · exact same

namespace Run

theorem keyed_moment (run : Run (Logged ω)) (i : Nat)
    (truthful : ∀ j ≤ i, (run.moment j).client.world.Truthful) : (run.moment i).client.Keyed := by
  induction i with
  | zero =>
    intro id store present
    simp [moment, Scene.after, Scene.start] at present
  | succ i ih =>
    have keyed := ih fun j earlier => truthful j (Nat.le_succ_of_le earlier)
    cases played : run.actions[i]? with
    | none =>
      rw [run.moment_succ_of_none played]
      exact keyed
    | some action =>
      have told := truthful (i + 1) (Nat.le_refl _)
      rw [run.moment_succ played] at told ⊢
      exact Scene.keyed_play keyed told

/-- **The stores of a fetched region.** At every moment of a run, if all that was told
    about stores so far was about the store that was asked for, and the same holds
    of what the next lookup is told, then a region that it has to fetch, by a key or
    by an id, is returned with the stores of its peers as they are cached then. -/
theorem fetched_stores (run : Run (Logged ω)) (i : Nat)
    (truthful : ∀ j ≤ i, (run.moment j).client.world.Truthful) :
    let client := (run.moment i).client
    (∀ key budget region, let out := (Lookup.regionByKey key).outcome budget client
      client.cache.regions.find? key = none → out.1.1 = .ok region → out.2.world.Truthful →
        client.Gathers (.byKey key) region out.2) ∧
    (∀ id budget region, let out := (Lookup.regionById id).outcome budget client
      client.cache.regions.get? id = none → out.1.1 = .ok region → out.2.world.Truthful →
        client.Gathers (.byId id) region out.2) := by
  intro client
  have keyed : client.Keyed := run.keyed_moment i truthful
  constructor
  · intro key budget region
    dsimp only
    intro missed ok told
    rw [Lookup.outcome_regionByKey_miss budget missed] at ok told ⊢
    have gathered := (Lookup.fetches (.byKey key) budget
      ((client.record .lookup).record .miss)).gathers_announce ok keyed told
    exact ⟨gathered.stores, gathered.calls⟩
  · intro id budget region
    dsimp only
    intro missed ok told
    rw [Lookup.outcome_regionById_miss budget missed] at ok told ⊢
    exact (Lookup.fetches (.byId id) budget client).gathers_announce ok keyed told

/-! ## A region with a store that was removed -/

/-- A region with two peers on a store that is up, and two on one that was removed. -/
def halfGone : Script where
  regions := [({
      id := ⟨1⟩, range := ⟨[], []⟩, epoch := {},
      peers := [⟨⟨1⟩, ⟨1⟩, .voter⟩, ⟨⟨2⟩, ⟨2⟩, .voter⟩, ⟨⟨3⟩, ⟨1⟩, .learner⟩,
        ⟨⟨4⟩, ⟨2⟩, .learner⟩] },
    ⟨⟨1⟩, ⟨1⟩, .voter⟩)]
  stores := ((∅ : Std.ExtTreeMap StoreId StoreDescriptor).insert ⟨1⟩
    { id := ⟨1⟩, address := "node", labels := [], state := .up }).insert ⟨2⟩
    { id := ⟨2⟩, address := "gone", labels := [], state := .tombstone }

/-- The store that is up is looked up first. -/
def halfGoneRun : Run (Logged Script) where
  world := { world := halfGone }
  scheduler := .unwatched
  subscribed := false
  actions := [.storeById ⟨1⟩ {}]
  unused := Scheduler.waiting_unwatched
  allowed := by
    rintro (_ | i) action ⟨⟩
    exact ⟨by rintro _ ⟨⟩, by rintro _ ⟨⟩, by rintro _ ⟨⟩⟩

/-- The region has the store that is up, and lacks the other. -/
theorem halfGone_fetched :
    let client := (halfGoneRun.moment 1).client
    let out := (Lookup.regionByKey [7]).outcome {} client
    (∀ j ≤ 1, (halfGoneRun.moment j).client.world.Truthful) ∧ ∃ region,
      out.1.1 = .ok region ∧ region.stores.keys = [⟨1⟩] ∧
        client.Gathers (.byKey [7]) region out.2 := by
  intro client out
  have truthful : ∀ j ≤ 1, (halfGoneRun.moment j).client.world.Truthful := by decide +kernel
  have missed : client.cache.regions.find? [7] = none := by decide +kernel
  have told : out.2.world.Truthful := by decide +kernel
  have returned : out.1.1.toOption.map (·.stores.keys) = some [⟨1⟩] := by decide +kernel
  obtain ⟨region, some, keys⟩ := Option.map_eq_some_iff.1 returned
  have ok : out.1.1 = .ok region := Scene.ok_of_resolved some
  have gathered := (fetched_stores halfGoneRun 1 truthful).1 [7] {} region missed ok told
  exact ⟨truthful, region, ok, keys, gathered⟩

end Run
end RegionRouting
