/-
  Region routing — what a fetch asks of the world.

  * `Routine.Preserves`: a property of the world that each act of a routine
    keeps; `Lookup.preserves_cacheAnswer`: once a region call was answered, a
    fetch keeps what calls about stores keep;
  * `Client.regionCalls` are the region calls in the transcript of a world; a
    lookup of a key makes one exactly if no cached region owns the key
    (`regionCalls_regionByKey`);
  * `Supplied`: the authority would answer a region call, and the stores of the
    region could be loaded; then a lookup brings the region into the cache
    (`Supplied.regionByKey`).
-/
import RegionRouting.Proofs.Heedless
import RegionRouting.Proofs.LookupEffect
import RegionRouting.Transcript

namespace RegionRouting

variable {ω α β : Type} {P : ω → Prop}

/-! ## Properties of the world -/

namespace Routine

/-- Each act of the routine keeps a property of the world. -/
def Preserves (P : ω → Prop) : Routine (Client ω) α → Prop
  | .done _ => True
  | .act change next =>
    (∀ client, P client.world → P (change client).world) ∧ ∀ client, (next client).Preserves P
  | .acquire next | .release next | .sleep _ next => next.Preserves P

theorem Preserves.bind {routine : Routine (Client ω) α} {next : α → Routine (Client ω) β}
    (h : routine.Preserves P) (h' : ∀ a, (next a).Preserves P) :
    (routine.bind next).Preserves P := by
  induction routine with
  | done result => exact h' result
  | act change rest ih => exact ⟨h.1, fun client => ih client (h.2 client)⟩
  | acquire _ ih | release _ ih | sleep _ _ ih => exact ih h

theorem preserves_perform {f : Client ω → α × Client ω}
    (h : ∀ client, P client.world → P (f client).2.world) : (perform f).Preserves P :=
  ⟨h, fun _ => trivial⟩

theorem preserves_persist {attempt : ω → Attempt α × ω}
    (h : ∀ world, P world → P (attempt world).2) (budget : Backoffer) :
    (budget.persist (σ := Client ω) (·.onWorld attempt)).Preserves P := by
  induction budget using Backoffer.persist.induct with
  | case1 budget ih =>
    rw [Backoffer.persist]
    refine ⟨fun client => h client.world, fun client => ?_⟩
    dsimp only
    split
    · trivial
    · split
      · trivial
      · next granted => exact ih _ _ _ granted

theorem Preserves.run {routine : Routine (Client ω) α} (h : routine.Preserves P)
    (client : Client ω) (before : P client.world) : P (routine.run client).2.world := by
  induction routine generalizing client with
  | done => exact before
  | act change next ih => exact ih client (h.2 client) (change client) (h.1 client before)
  | acquire _ ih | release _ ih | sleep _ _ ih => exact ih h client before

end Routine

namespace Lookup

/-- Does the lookup keep a property of the world, whatever its budget? -/
def Preserves (P : ω → Prop) (lookup : Lookup ω α) : Prop :=
  ∀ budget, (lookup budget).Preserves P

theorem Preserves.bind {lookup : Lookup ω α} {next : α → Lookup ω β} (h : Preserves P lookup)
    (h' : ∀ a, Preserves P (next a)) : Preserves P (lookup >>= next) := by
  intro budget
  rw [bind_apply]
  refine (h budget).bind ?_
  rintro ⟨error | a, budget⟩
  · trivial
  · exact h' a budget

theorem preserves_pure (a : α) : Preserves P (pure a : Lookup ω α) := fun _ => trivial

theorem preserves_throw (error : RouteError) : Preserves P (throw error : Lookup ω α) :=
  fun _ => trivial

theorem preserves_read (view : Client ω → α) : Preserves P (read view) := fun _ =>
  Routine.Preserves.bind (Routine.preserves_perform fun _ => id) fun _ => trivial

theorem preserves_change {f : Client ω → Client ω}
    (h : ∀ client, (f client).world = client.world) : Preserves P (change f) := fun _ => by
  refine Routine.Preserves.bind (Routine.preserves_perform fun client before => ?_)
    fun _ => trivial
  exact (h client).symm ▸ before

theorem preserves_create (make : Ledger → α × Ledger) : Preserves P (create (ω := ω) make) :=
  fun _ => Routine.Preserves.bind (Routine.preserves_perform fun _ => id) fun _ => trivial

variable [Authority ω]

theorem preserves_ask {call : Call} {attempt : ω → Attempt α × ω}
    (placed : ∀ world, P world → P (Authority.place call world).2)
    (answered : ∀ world, P world → P (attempt world).2) : Preserves P (ask call attempt) :=
  fun budget => Routine.Preserves.bind
    (Routine.preserves_perform fun client => placed client.world)
    fun _ => Routine.preserves_persist answered budget

/-- Calls about stores keep a property of the world. -/
structure KeptByStoreCalls (P : ω → Prop) : Prop where
  placed : ∀ id world, P world → P (Authority.place (.store id) world).2
  answered : ∀ id world, P world → P (Authority.store id world).2

variable (kept : KeptByStoreCalls P)
include kept

theorem preserves_loadStore (id : StoreId) : Preserves P (loadStore id) := by
  refine Preserves.bind (preserves_read _) fun cached => ?_
  cases cached with
  | some store => exact preserves_pure _
  | none =>
    refine Preserves.bind (preserves_change fun _ => rfl) fun _ => ?_
    refine Preserves.bind (preserves_ask (kept.placed id) (kept.answered id)) fun descriptor => ?_
    refine Preserves.bind (preserves_create _) fun store => ?_
    split
    · exact preserves_pure _
    · exact Preserves.bind (preserves_change fun _ => rfl) fun _ => preserves_pure _

theorem preserves_loadStores : ∀ peers, Preserves P (loadStores peers)
  | [] => preserves_pure _
  | _ :: peers => Preserves.bind (preserves_loadStore kept _) fun _ =>
    Preserves.bind (preserves_loadStores peers) fun _ => preserves_pure _

/-- Once a region call was answered, a fetch makes calls about stores alone. -/
theorem preserves_cacheAnswer (answer : RegionDescriptor × Peer) :
    Preserves P (cacheAnswer answer) := by
  refine Preserves.bind (preserves_loadStores kept _) fun stores => ?_
  refine Preserves.bind (preserves_create _) fun region => ?_
  have inserts : Preserves P (insert (ω := ω) region) :=
    Preserves.bind (preserves_read _) fun _ =>
      Preserves.bind (preserves_change fun _ => rfl) fun _ => preserves_pure _
  split
  · exact Preserves.bind (preserves_throw _) fun _ => inserts
  · exact inserts

end Lookup

/-! ## Region calls -/

def Call.isRegion : Call → Bool
  | .region _ => true
  | .store _ => false

/-- The region calls that were written down. -/
def Observed.regionCalls (observed : Observed ω) : List Call :=
  observed.calls.filter Call.isRegion

/-- The region calls that the authority has received. -/
def Client.regionCalls (client : Client (Observed ω)) : List Call :=
  client.world.regionCalls

namespace Lookup

variable [Authority ω]

/-- Calls about stores are no region calls. -/
theorem regionCalls_keptByStoreCalls (calls : List Call) :
    KeptByStoreCalls fun world : Observed ω => world.regionCalls = calls where
  placed id world before := by
    change (world.calls ++ [Call.store id]).filter Call.isRegion = calls
    rw [List.filter_append, ← before]
    exact List.append_nil _
  answered _ _ before := before

variable (budget : Backoffer) (client : Client (Observed ω))

/-- A call is written down once, with all its attempts. -/
theorem calls_ask (call : Call) {attempt : Observed ω → Attempt α × Observed ω}
    (silent : ∀ world, (attempt world).2.calls = world.calls) :
    ((ask call attempt).outcome budget client).2.world.calls = client.world.calls ++ [call] := by
  let placed := (client.onWorld (Authority.place call)).2
  have answered (world : Observed ω) (before : world.calls = placed.world.calls) :
      (attempt world).2.calls = placed.world.calls := (silent world).trans before
  exact (Routine.preserves_persist answered budget).run placed rfl

theorem regionCalls_askRegion (query : RegionQuery) :
    ((askRegion query).outcome budget client).2.regionCalls =
      client.regionCalls ++ [.region query] := by
  rw [askRegion, Client.regionCalls, Observed.regionCalls, calls_ask budget client _ fun _ => rfl,
    List.filter_append]
  rfl

/-- A fetch makes one region call, whatever comes of it. -/
theorem regionCalls_fetch (query : RegionQuery) :
    ((fetch query).outcome budget client).2.regionCalls =
      client.regionCalls ++ [.region query] := by
  have asked := regionCalls_askRegion budget (client.record .regionFetch) query
  rw [fetch_eq, outcome_bind, outcome_change, Outcome.andThen_ok, outcome_bind]
  generalize (askRegion query).outcome budget (client.record .regionFetch) = out at asked ⊢
  obtain ⟨⟨_ | answer, budget'⟩, client'⟩ := out
  · exact asked
  · have kept := regionCalls_keptByStoreCalls (ω := ω) client'.regionCalls
    exact ((preserves_cacheAnswer kept answer budget').run client' rfl).trans asked

/-- A lookup of a key makes a region call exactly if no cached region owns the
    key. -/
theorem regionCalls_settleKey (key : Key) :
    ((settleKey key).outcome budget client).2.regionCalls = client.regionCalls ++
      if (client.cache.regions.find? key).isSome then [] else [.region (.byKey key)] := by
  rw [settleKey, outcome_bind, outcome_read, Outcome.andThen_ok]
  cases client.cache.regions.find? key with
  | some region => exact (List.append_nil _).symm
  | none => exact regionCalls_fetch budget (client.record .miss) (.byKey key)

omit [Authority ω] in
/-- To announce evictions makes no call. -/
theorem world_announce (out : Outcome ω (Region × List Region)) :
    (announce out).2.world = out.2.world := by
  obtain ⟨⟨_ | ⟨region, evicted⟩, budget⟩, client⟩ := out
  · rfl
  · rw [announce, Client.announceEvicted_eq]

theorem regionCalls_regionByKey (key : Key) :
    ((regionByKey key).outcome budget client).2.regionCalls = client.regionCalls ++
      if (client.cache.regions.find? key).isSome then [] else [.region (.byKey key)] := by
  rw [outcome_regionByKey, Client.regionCalls, world_announce]
  exact regionCalls_settleKey budget (client.record .lookup) key

end Lookup

/-! ## What the authority can supply -/

/-- A region as the authority tells of it: its descriptor, and its leader. -/
def Region.placement (region : Region) : RegionDescriptor × Peer :=
  (region.descriptor, region.leader)

/-- Is a region of this descriptor and leader valid? -/
def ValidPlacement (placement : RegionDescriptor × Peer) : Prop :=
  placement.1.range.isProper ∧ placement.2 ∈ placement.1.peers ∧ placement.2.isLearner = false

theorem Region.isValid_iff (region : Region) :
    region.isValid ↔ ValidPlacement region.placement := by
  simp [isValid, voters, range, peers, ValidPlacement, placement]

namespace Lookup

variable [Authority ω] {client : Client ω} {query : RegionQuery} {key : Key} {budget : Backoffer}
  {placement : RegionDescriptor × Peer}

/-- Whatever the counters are, a region call is answered with the placement, and
    then the stores of its peers can be loaded. -/
def Supplied (client : Client ω) (query : RegionQuery) (budget : Backoffer)
    (placement : RegionDescriptor × Peer) : Prop :=
  ∀ metrics, ∃ budget₁ client₁ stores budget₂ client₂,
    (askRegion query).outcome budget { client with metrics } =
      ((.ok placement, budget₁), client₁) ∧
    (loadStores placement.1.peers).outcome budget₁ client₁ = ((.ok stores, budget₂), client₂)

/-- A region that is supplied, and valid, is brought into the cache. -/
theorem Supplied.fetch (h : Supplied client query budget placement)
    (valid : ValidPlacement placement) : ∃ region budget' before, client.Grows before ∧
      region.placement = placement ∧ (fetch query).outcome budget client =
        ((.ok (region, (client.cache.regions.insert region).1), budget'),
          before.withRegions (client.cache.regions.insert region).2) := by
  obtain ⟨budget₁, client₁, stores, budget₂, client₂, asked, loaded⟩ :=
    h (client.metrics.record .regionFetch)
  let made := client₂.create (Region.create placement.1 placement.2 stores)
  have grown : client.Grows made.2 := by
    obtain ⟨_, _, world, heard⟩ := Lookup.asked (.region query) (Authority.region query)
      .regionFetch budget client
    have same : client₁ = Lookup.heard client .regionFetch world :=
      congrArg Prod.snd (asked.symm.trans heard)
    have stored := (loadsStores placement.1.peers budget₁ client₁).grows
    rw [loaded, same] at stored
    exact ((grows_heard rfl rfl).trans stored).trans
      (.of_cache rfl (Nat.le_succ _) rfl rfl rfl rfl rfl rfl)
  have fine : made.1.isValid = true := made.1.isValid_iff.2 valid
  refine ⟨made.1, budget₂, made.2, grown, rfl, ?_⟩
  change (askRegion query).outcome budget (client.record .regionFetch) = _ at asked
  rw [fetch_eq, outcome_bind, outcome_change, Outcome.andThen_ok, outcome_bind, asked,
    Outcome.andThen_ok, cacheAnswer, outcome_bind, loaded, Outcome.andThen_ok, outcome_bind,
    outcome_create, Outcome.andThen_ok]
  have accepted : ¬(!made.1.isValid) = true := by simp [fine]
  dsimp only
  rw [if_neg accepted, ← grown.regions]
  rfl

/-- A lookup of a key that no cached region owns brings the region of the key
    into the cache. -/
theorem Supplied.regionByKey (h : Supplied client (.byKey key) budget placement)
    (valid : ValidPlacement placement) (absent : client.cache.regions.find? key = none) :
    ∃ region budget' before, client.Grows before ∧ region.placement = placement ∧
      (regionByKey key).outcome budget client = ((.ok region, budget'),
        (before.withRegions (client.cache.regions.insert region).2).announceEvicted
          (client.cache.regions.insert region).1) := by
  let counted := (client.record .lookup).record .miss
  have supplied : Supplied counted (.byKey key) budget placement := fun metrics => h metrics
  obtain ⟨region, budget', before, grown, same, fetched⟩ := supplied.fetch valid
  have missed : client.Grows counted := .of_cache rfl (Nat.le_refl _) rfl rfl rfl rfl rfl rfl
  refine ⟨region, budget', before, missed.trans grown, same, ?_⟩
  rw [outcome_regionByKey_miss budget absent, fetched]
  rfl

end Lookup
end RegionRouting
