/-
  Region routing — the pair that a key is routed to.

  A route returns a region and a store.  The region comes from the cache or from the
  authority, and the store may be fetched when the region is known already; in
  between the search has looked at the stores of other peers.  Nevertheless the two
  belong together, as long as the authority answers what it was asked for.

  * `Logged.Faithful`: what was told of a key holds the key, and what was told of a
    store id is about that store;
  * `Region.currentReplica_mem` and `Region.currentReplica_follower`: which peer a
    selector puts first in a valid region;
  * `Lookup.Pairs` says how a region and a store belong together, and
    `Run.routed_pairs` that those of a route do, at every moment of a run.
-/
import Mathlib.Data.List.Chain
import RegionRouting.Proofs.Coverage
import RegionRouting.Proofs.RegionStores
import RegionRouting.Proofs.StoreSearch

namespace RegionRouting

variable {ω : Type}

/-! ## Faithful answers -/

/-- Is the region that was told one that holds the key which was asked for? -/
def Entry.Suits : Entry → Entry → Prop
  | asked (.region (.byKey key)), toldRegion placement => placement.1.range.contains key
  | _, _ => True

instance : DecidableRel Entry.Suits := fun question answer => by
  unfold Entry.Suits
  split <;> infer_instance

/-- So far each key was answered with a region that holds it, and each store id with
    the descriptor of that store. -/
structure Logged.Faithful (logged : Logged ω) : Prop where
  suits : logged.log.IsChain Entry.Suits
  truthful : logged.Truthful

instance : DecidablePred (Logged.Faithful (ω := ω)) := fun logged =>
  decidable_of_iff (logged.log.IsChain Entry.Suits ∧ logged.Truthful)
    ⟨fun h => ⟨h.1, h.2⟩, fun h => ⟨h.suits, h.truthful⟩⟩

/-- What was faithful in the end was so before. -/
theorem Logged.Faithful.of_prefix {logged later : Logged ω} (h : later.Faithful)
    (earlier : logged.log <+: later.log) : logged.Faithful where
  suits := h.suits.prefix earlier
  truthful entry told := h.truthful entry (earlier.subset told)

/-! ## The current replica -/

namespace Region

variable {region : Region}

/-- The peer that a selector puts first is a voter. -/
theorem currentReplica_mem (valid : region.isValid) (selector : ReplicaSelector) :
    region.currentReplica selector ∈ region.voters := by
  have leads : region.leader ∈ region.voters :=
    List.contains_iff_mem.1 (Bool.and_eq_true_iff.1 valid).2
  have follows : region.followers ⊆ region.voters := List.filter_subset_self _
  have first (peers : List Peer) (voting : peers ⊆ region.voters) :
      peers.headD region.leader ∈ region.voters := by
    cases peers with
    | nil => exact leads
    | cons peer peers => exact voting (List.mem_cons_self ..)
  cases selector with
  | leader => exact leads
  | follower => exact first _ follows
  | leaderAndFollower =>
    exact first _ (List.append_subset.2 ⟨follows, List.cons_subset.2 ⟨leads, List.nil_subset _⟩⟩)

/-- The first follower, if there is one, or else the leader. -/
theorem currentReplica_follower (region : Region) :
    if ∃ voter ∈ region.voters, voter.id ≠ region.leader.id then
      (region.currentReplica .follower).id ≠ region.leader.id
    else region.currentReplica .follower = region.leader := by
  change if _ then (region.followers.headD region.leader).id ≠ region.leader.id
    else region.followers.headD region.leader = region.leader
  cases others : region.followers with
  | nil =>
    have alone := List.filter_eq_nil_iff.1 others
    rw [if_neg (by simpa using alone)]
    rfl
  | cons peer peers =>
    have among : peer ∈ region.followers := others ▸ List.mem_cons_self ..
    obtain ⟨voting, other⟩ := List.mem_filter.1 among
    have differs : peer.id ≠ region.leader.id := bne_iff_ne.1 other
    rw [if_pos ⟨peer, voting, differs⟩]
    exact differs

end Region

namespace Lookup

section
variable [Authority ω]

/-! ## Lookups within a route -/

section
variable {budget budget' : Backoffer} {client client' : Client (Logged ω)} {key : Key}
  {region : Region}

/-- A region that a key resolves to holds it. -/
theorem contains_of_ok (table : client.cache.regions.WellFormed)
    (found : (regionByKey key).outcome budget client = ((.ok region, budget'), client'))
    (faithful : client'.world.Faithful) : region.range.contains key := by
  cases cached : client.cache.regions.find? key with
  | some hit =>
    rw [outcome_regionByKey_hit budget cached] at found
    cases found
    exact (table.find?_eq_some_iff.1 cached).2
  | none =>
    rw [outcome_regionByKey_miss budget cached] at found
    have fetched := fetches (.byKey key) budget ((client.record .lookup).record .miss)
    generalize (fetch (.byKey key)).outcome budget ((client.record .lookup).record .miss) = out
      at fetched found
    obtain ⟨⟨_ | ⟨region, evicted⟩, budget₁⟩, client₁⟩ := out
    · cases found
    · cases found
      obtain ⟨replies, _, _, log, -⟩ := fetched.gathered
      rw [Client.announceEvicted_eq] at faithful
      have suits : client₁.world.log.IsChain Entry.Suits := faithful.suits
      rw [log] at suits
      exact (List.isChain_cons_cons.1 suits.right_of_append).1

theorem log_prefix_storeById (id : StoreId) (budget : Backoffer) (client : Client (Logged ω)) :
    client.world.log <+: ((storeById id).outcome budget client).2.world.log := by
  rw [outcome_storeById_snd]
  have loaded := loadsStore id budget client
  generalize (loadStore id).outcome budget client = out at loaded ⊢
  obtain ⟨⟨_ | found, budget'⟩, client'⟩ := out
  · exact ⟨_, loaded.falters.2.symm⟩
  · obtain ⟨replies, loads, -⟩ := loaded.loads
    exact ⟨_, loads.log.symm⟩

/-- A lookup of a store puts it under its own id, where what is told is true. -/
theorem keyed_of_looked {id : StoreId} {result : Except RouteError Store}
    (looked : (storeById id).outcome budget client = ((result, budget'), client'))
    (keyed : client.Keyed) (faithful : client'.world.Faithful) : client'.Keyed := by
  have heard := hears_storeById id budget client
  rw [looked] at heard
  exact heard.keyed keyed faithful.truthful

theorem log_prefix_of_looked {id : StoreId} {result : Except RouteError Store}
    (looked : (storeById id).outcome budget client = ((result, budget'), client')) :
    client.world.log <+: client'.world.log := by
  have longer := log_prefix_storeById id budget client
  rwa [looked] at longer

theorem PassesOver.log_prefix {kind : StoreKind} {peers : List Peer}
    (h : PassesOver kind peers budget client budget' client') :
    client.world.log <+: client'.world.log := by
  induction h with
  | nil => exact List.prefix_rfl
  | absent looked _ _ ih | unfit looked _ _ ih => exact (log_prefix_of_looked looked).trans ih

theorem PassesOver.keyed {kind : StoreKind} {peers : List Peer}
    (h : PassesOver kind peers budget client budget' client') (keyed : client.Keyed)
    (faithful : client'.world.Faithful) : client'.Keyed := by
  induction h with
  | nil => exact keyed
  | absent looked _ rest ih | unfit looked _ rest ih =>
    exact ih (keyed_of_looked looked keyed (faithful.of_prefix rest.log_prefix)) faithful

end

/-- A store that was looked up is cached under the id that was asked for. -/
theorem cached_of_looked {id : StoreId} {store : Store} {budget budget' : Backoffer}
    {client client' : Client ω}
    (looked : (storeById id).outcome budget client = ((.ok store, budget'), client')) :
    client'.cache.stores[id]? = some store := by
  have loaded := loadsStore id budget client
  rw [outcome_storeById] at looked
  generalize (loadStore id).outcome budget client = out at loaded looked
  obtain ⟨⟨_ | _ | store, budget₁⟩, client₁⟩ := out <;> cases looked
  exact loaded.cached_of_ok

/-! ## Pairs -/

/-- A region and a store to which a key is routed belong together: the region holds
    the key, and both are cached under their ids when the route is returned.  For the
    primary kind the store is that of the current replica, a voter; to select a
    follower means one whose id is not the leader's, or the leader where there is
    none.  For the columnar kind it is the store of the first learner that has one
    with the label; those of the learners before it were looked up and passed over. -/
structure Pairs (key : Key) (kind : StoreKind) (selector : ReplicaSelector) (budget : Backoffer)
    (client : Client ω) (region : Region) (store : Store) (client' : Client ω) : Prop where
  contains : region.range.contains key
  cachedRegion : client'.cache.regions.get? region.id = some region
  cachedStore : client'.cache.stores[store.id]? = some store
  primary : kind = .primary →
    store.id = (region.currentReplica selector).store ∧
      region.currentReplica selector ∈ region.voters
  follower : kind = .primary → selector = .follower →
    if ∃ voter ∈ region.voters, voter.id ≠ region.leader.id then
      (region.currentReplica selector).id ≠ region.leader.id
    else region.currentReplica selector = region.leader
  columnar : kind = .columnar → ∃ earlier peer later budget₁ client₁ budget₂ client₂ budget₃,
    region.learners = earlier ++ peer :: later ∧
    (regionByKey key).outcome budget client = ((.ok region, budget₁), client₁) ∧
    PassesOver kind earlier budget₁ client₁ budget₂ client₂ ∧
    (storeById peer.store).outcome budget₂ client₂ = ((.ok store, budget₃), client') ∧
    store.id = peer.store ∧ store.hasLabel columnarEngine

variable {key : Key} {kind : StoreKind} {selector : ReplicaSelector} {budget : Backoffer}
  {client : Client (Logged ω)} {region : Region} {store : Store}

theorem pairs_of_route (table : client.cache.regions.WellFormed) (keyed : client.Keyed) :
    let out := (route key kind selector).outcome budget client
    out.1.1 = .ok (region, store) → out.2.world.Faithful →
      Pairs key kind selector budget client region store out.2 := by
  intro out ok faithful
  obtain ⟨found, budget₁, client₁, first⟩ := exists_region_of_route ok
  have ends := searches_servingStore found kind selector budget₁ client₁
  have routed : out = routed found kind _ := outcome_route kind selector first
  generalize (servingStore found kind selector).outcome budget₁ client₁ = answer at ends routed
  clear_value out
  cases ends with
  | unserved => cases routed; cases ok
  | fails => cases routed; cases ok
  | @served earlier later peer budget₂ budget' client₂ client' chosen tried passed looked fit =>
    cases routed
    cases ok
    have earlierLog := passed.log_prefix.trans (log_prefix_of_looked looked)
    have faithful₁ : client₁.world.Faithful := faithful.of_prefix earlierLog
    have heard := hears_regionByKey key budget client
    rw [first] at heard
    have keyed₂ := passed.keyed (heard.keyed keyed faithful₁.truthful)
      (faithful.of_prefix (log_prefix_of_looked looked))
    have own := keyed_of_looked looked keyed₂ faithful
    have cached := cached_of_looked looked
    have same : store.id = peer.store := own _ _ cached
    have resolved := resolves_regionByKey key budget client
    rw [first] at resolved
    have change : TableChange client .clear client₁.cache.regions := .of_resolves resolved
    have present := resolved.get?_of_ok table.toConsistent
    have valid : region.isValid := (change.wellFormed table).valid present
    have grown := passed.grows.trans (grows_of_looked looked)
    refine ⟨contains_of_ok table first faithful₁, ?_, same ▸ cached, ?_, ?_, ?_⟩
    · change client'.cache.regions.get? region.id = some region
      rw [grown.regions]
      exact present
    · rintro rfl
      obtain ⟨-, alone⟩ | ⟨-, none⟩ := List.append_eq_singleton_iff.1 tried.symm
      · rw [same, (List.cons.inj alone).1]
        exact ⟨rfl, region.currentReplica_mem valid selector⟩
      · cases none
    · rintro rfl rfl
      exact region.currentReplica_follower
    · rintro rfl
      exact ⟨earlier, peer, later, budget₁, client₁, budget₂, client₂, budget', tried, first,
        passed, looked, same, by simpa [StoreKind.accepts, StoreKind.label] using fit⟩

end

end Lookup

/-! ## Routes in a run -/

namespace Run

variable [Authority ω] [Prober ω]

/-- **Routed pairs.** At every moment of a run, if all that was told about stores so
    far was about the store that was asked for, and the authority is faithful
    until the route returns, then the region and the store that it returns belong
    together. -/
theorem routed_pairs (run : Run (Logged ω)) (i : Nat)
    (truthful : ∀ j ≤ i, (run.moment j).client.world.Truthful) :
    let client := (run.moment i).client
    ∀ key kind selector budget region store,
      let out := (Lookup.route key kind selector).outcome budget client
      out.1.1 = .ok (region, store) → out.2.world.Faithful →
        Lookup.Pairs key kind selector budget client region store out.2 := by
  intro client key kind selector budget region store
  exact Lookup.pairs_of_route (run.wellFormed_moment i) (run.keyed_moment i truthful)

/-- A region with two voters and three learners: the first learner is on a store
    without a label, the second one on a store that was removed. -/
def threeLearners : Script where
  regions := [({
      id := ⟨1⟩, range := ⟨[], []⟩, epoch := {},
      peers := [⟨⟨1⟩, ⟨1⟩, .voter⟩, ⟨⟨2⟩, ⟨2⟩, .voter⟩, ⟨⟨3⟩, ⟨2⟩, .learner⟩,
        ⟨⟨4⟩, ⟨3⟩, .learner⟩, ⟨⟨5⟩, ⟨4⟩, .learner⟩] },
    ⟨⟨1⟩, ⟨1⟩, .voter⟩)]
  stores := (∅ : Std.ExtTreeMap StoreId StoreDescriptor)
    |>.insert ⟨1⟩ { id := ⟨1⟩, address := "lead", labels := [], state := .up }
    |>.insert ⟨2⟩ { id := ⟨2⟩, address := "row", labels := [], state := .up }
    |>.insert ⟨3⟩
      { id := ⟨3⟩, address := "gone", labels := [columnarEngine], state := .tombstone }
    |>.insert ⟨4⟩ { id := ⟨4⟩, address := "column", labels := [columnarEngine], state := .up }

/-- A run in which the store without a label is looked up first. -/
def threeLearnersRun : Run (Logged Script) where
  world := { world := threeLearners }
  scheduler := .unwatched
  subscribed := true
  actions := [.storeById ⟨2⟩ {}]
  unused := Scheduler.waiting_unwatched
  allowed := by
    rintro (_ | i) action ⟨⟩
    exact ⟨by rintro _ ⟨⟩, by rintro _ ⟨⟩, by rintro _ ⟨⟩⟩

/-- A columnar request goes to the store of the third learner, and one to a follower
    to that of the voter that does not lead. -/
theorem threeLearners_paired :
    let client := (threeLearnersRun.moment 1).client
    let columnar := (Lookup.route [7] .columnar .leader).outcome {} client
    let follower := (Lookup.route [7] .primary .follower).outcome {} client
    (∃ region store, columnar.1.1 = .ok (region, store) ∧ store.id = ⟨4⟩ ∧
      Lookup.Pairs [7] .columnar .leader {} client region store columnar.2) ∧
    ∃ region store, follower.1.1 = .ok (region, store) ∧ store.id = ⟨2⟩ ∧
      Lookup.Pairs [7] .primary .follower {} client region store follower.2 := by
  intro client columnar follower
  have truthful : ∀ j ≤ 1, (threeLearnersRun.moment j).client.world.Truthful := by decide +kernel
  have labelled : columnar.1.1.toOption.map (·.2.id) = some ⟨4⟩ := by decide +kernel
  have other : follower.1.1.toOption.map (·.2.id) = some ⟨2⟩ := by decide +kernel
  obtain ⟨⟨region, store⟩, some, fourth⟩ := Option.map_eq_some_iff.1 labelled
  obtain ⟨⟨region', store'⟩, some', second⟩ := Option.map_eq_some_iff.1 other
  have ok : columnar.1.1 = .ok (region, store) := Scene.ok_of_resolved some
  have ok' : follower.1.1 = .ok (region', store') := Scene.ok_of_resolved some'
  exact ⟨⟨region, store, ok, fourth,
      routed_pairs threeLearnersRun 1 truthful _ _ _ _ _ _ ok (by decide +kernel)⟩,
    region', store', ok', second,
      routed_pairs threeLearnersRun 1 truthful _ _ _ _ _ _ ok' (by decide +kernel)⟩

end Run
end RegionRouting
