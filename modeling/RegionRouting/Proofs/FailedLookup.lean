/-
  Region routing — lookups that fail.

  A lookup that asks the authority for a region may fail at any of the calls that it
  makes, or at the end, when it turns out that the region is invalid.  By then
  it has cached the stores of some peers.  These stay; apart from what counts the
  calls, all else is as it was.

  * `Lookup.FailsAt` lists the points at which a lookup may fail;
  * `Client.Spares` says what it leaves then;
  * `Lookup.failed_spares`: so it is for each failure, whatever the authority
    answers.
-/
import RegionRouting.Proofs.Gathering
import RegionRouting.Proofs.Supply
import RegionRouting.Simulation.Script

namespace RegionRouting

variable {ω : Type}

/-- Where a lookup fails, with the peers whose stores were loaded by then, the
    replies about stores, and all that is written down of its calls: at the region
    call; at the store of the next peer; or at the end, since the region is invalid. -/
inductive Lookup.FailsAt (query : RegionQuery) (error : RouteError) :
    List Peer → Replies → List Entry → Prop
  | region : FailsAt query error [] [] [.asked (.region query)]
  | store (placement : RegionDescriptor × Peer) {loaded rest : List Peer} {peer : Peer}
      {replies : Replies} (peers : placement.1.peers = loaded ++ peer :: rest) :
      FailsAt query error loaded replies (.asked (.region query) :: .toldRegion placement ::
        (replies.entries ++ [.asked (.store peer.store)]))
  | invalid {region : Region} {replies : Replies} (invalid : region.isValid = false)
      (reason : error = .invalidRegion region.text) :
      FailsAt query error region.peers replies
        (.asked (.region query) :: .toldRegion region.placement :: replies.entries)

/-- The lookup has failed.  The table of regions and the notices are as they were, no
    invalidation was counted, and no cached store was lost or replaced.  The stores
    that were added are those that the lookup was told of for the peers before the
    failure, save the tombstoned. -/
structure Client.Spares (client : Client (Logged ω)) (query : RegionQuery) (error : RouteError)
    (client' : Client (Logged ω)) : Prop extends client.Grows client' where
  gained : ∃ loaded replies entries, Lookup.FailsAt query error loaded replies entries ∧
    client'.world.log = client.world.log ++ entries ∧
    Gains client.cache.stores client.ledger.issued (loaded.map (·.store)) replies
      client'.cache.stores

namespace Lookup

variable [Authority ω] {client client' : Client (Logged ω)} {budget budget' : Backoffer}
  {query : RegionQuery} {error : RouteError}

/-- A fetch that failed spares what was cached. -/
theorem Fetches.spares
    (h : Fetches query budget client ((.error error, budget'), client')) :
    client.Spares query error client' := by
  refine ⟨h.of_error, ?_⟩
  generalize result : (Except.error error : Except RouteError (Region × List Region)) = answer at h
  cases h with
  | cached => cases result
  | failed answer =>
    exact ⟨[], [], _, .region, log_of_answer answer, .nil⟩
  | storeless answer failure =>
    obtain ⟨loaded, peer, rest, replies, peers, gains, log⟩ := failure.falters rfl
    rw [List.append_assoc] at log
    exact ⟨loaded, replies, _, .store _ peers, log_of_region answer log, gains⟩
  | invalid answer loaded made invalid =>
    cases result
    cases made
    obtain ⟨replies, loads, -⟩ := loaded.loads rfl
    exact ⟨_, replies, _, .invalid invalid rfl, log_of_region answer loads.log, loads.gains⟩

/-- To announce evictions is no matter, where there are none. -/
theorem Fetches.spares_announce {out : Outcome (Logged ω) (Region × List Region)}
    (h : Fetches query budget client out) (failed : (announce out).1.1 = .error error) :
    client.Spares query error (announce out).2 := by
  obtain ⟨⟨_ | ⟨region, evicted⟩, budget'⟩, client'⟩ := out
  · cases failed
    exact h.spares
  · cases failed

/-- **Failed lookups.** Whatever was cached and whatever the authority answers, a
    lookup of a region that fails, be it by a key or by an id, leaves the table of
    regions with its index as it was, and announces and counts no invalidation.  No
    cached store is lost or replaced, and those that were added are alive and were
    told of, for the peers before the failure. -/
theorem failed_spares (client : Client (Logged ω)) (budget : Backoffer) (error : RouteError) :
    (∀ key, let out := (regionByKey key).outcome budget client
      out.1.1 = .error error → client.Spares (.byKey key) error out.2) ∧
    (∀ id, let out := (regionById id).outcome budget client
      out.1.1 = .error error → client.Spares (.byId id) error out.2) := by
  constructor
  · intro key
    dsimp only
    intro failed
    cases found : client.cache.regions.find? key with
    | some region =>
      rw [outcome_regionByKey_hit budget found] at failed
      cases failed
    | none =>
      rw [outcome_regionByKey_miss budget found] at failed ⊢
      have counted : client.Grows ((client.record .lookup).record .miss) :=
        .of_cache rfl (Nat.le_refl _) rfl rfl rfl rfl rfl rfl
      have spared := (fetches (.byKey key) budget _).spares_announce failed
      exact ⟨counted.trans spared.toGrows, spared.gained⟩
  · intro id
    dsimp only
    intro failed
    cases found : client.cache.regions.get? id with
    | some region =>
      rw [outcome_regionById_hit budget found] at failed
      cases failed
    | none =>
      rw [outcome_regionById_miss budget found] at failed ⊢
      exact (fetches (.byId id) budget client).spares_announce failed

/-- A region on two stores, one of which the authority does not know. -/
def halfKnown : Script where
  regions := [({
      id := ⟨1⟩, range := ⟨[], []⟩, epoch := {},
      peers := [⟨⟨1⟩, ⟨1⟩, .voter⟩, ⟨⟨2⟩, ⟨2⟩, .voter⟩] },
    ⟨⟨1⟩, ⟨1⟩, .voter⟩)]
  stores := (∅ : Std.ExtTreeMap StoreId StoreDescriptor).insert ⟨1⟩
    { id := ⟨1⟩, address := "node", labels := [], state := .up }

-- The lookup fails at the second store, and the first one stays.
example :
    let client : Client (Logged Script) := { world := { world := halfKnown } }
    let out := (regionByKey [7]).outcome {} client
    out.1.1.toOption.isNone ∧ out.2.cache.regions.size = 0 ∧ out.2.cache.stores.keys = [⟨1⟩] ∧
      out.2.world.log.getLast? = some (.asked (.store ⟨2⟩)) := by decide +kernel

end Lookup
end RegionRouting
