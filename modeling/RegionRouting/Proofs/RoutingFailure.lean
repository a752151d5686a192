/-
  Region routing — routes that fail once the region is known.

  Such a route fails for one of two reasons.  Either no store of the region serves
  the kind; then the peers are out of date, and the region is dropped.  Or the
  lookup of a store fails, and there is no telling; then the region stays, and
  the failure is passed on as it is.

  * `Lookup.Unserved`: no store of the region serves the kind;
  * `Lookup.Breaks`: the search has met a failure before it met a store that serves;
  * `Lookup.Settles` says what a route comes to in either case, and
    `Run.routes_settled` that it does, at every moment of a run.

  The error of a region without a store does not tell the two apart: an authority
  may fail a lookup with that very error.
-/
import RegionRouting.Proofs.StoreSearch
import RegionRouting.Proofs.TableChange
import RegionRouting.Simulation.Script

namespace RegionRouting

variable {ω : Type}

/-! ## What becomes of the region -/

/-- The region was dropped, and that alone was counted, and announced to a
    subscriber. -/
structure Client.Purges (client : Client ω) (region : Region) (client' : Client ω) : Prop where
  gone : client'.cache.regions.get? region.id = none
  others : ∀ id, id ≠ region.id → client'.cache.regions.get? id = client.cache.regions.get? id
  notices : client'.notices =
    client.notices ++ if client.subscribed then [.ofRegion region.id] else []
  counted : client'.metrics.regionsInvalidated = client.metrics.regionsInvalidated + 1

/-- The region is cached, as are the others; nothing was announced, and no
    invalidation was counted. -/
structure Client.Retains (client : Client ω) (region : Region) (client' : Client ω) : Prop where
  cached : client'.cache.regions.get? region.id = some region
  others : client'.cache.regions = client.cache.regions
  notices : client'.notices = client.notices
  counted : client'.metrics.regionsInvalidated = client.metrics.regionsInvalidated

theorem Client.Grows.retains {client client' : Client ω} {region : Region}
    (h : client.Grows client') (cached : client.cache.regions.get? region.id = some region) :
    client.Retains region client' where
  cached := by rw [h.regions, cached]
  others := h.regions
  notices := h.notices
  counted := h.invalidated

/-- To invalidate a cached region drops it. -/
theorem Client.purges_invalidateRegion {client : Client ω} {region : Region}
    (cached : client.cache.regions.get? region.id = some region) :
    client.Purges region (client.invalidateRegion region).2 := by
  have held : client.cache.regions.holds region :=
    RegionTable.holds_iff.2 ⟨region, cached, beq_self_eq_true region.generation⟩
  rw [invalidateRegion, if_pos held, notify_eq]
  refine ⟨?_, fun id other => ?_, rfl, rfl⟩
  · exact (RegionTable.get?_erase ..).trans (if_pos rfl)
  · exact (RegionTable.get?_erase ..).trans (if_neg other)

namespace Lookup

variable [Authority ω]

/-! ## Why a search finds no store -/

/-- No store of the region serves the kind.  For the primary kind, that of the
    current replica is not there; for the columnar kind, that of each learner is
    not there or lacks the label. -/
def Unserved (region : Region) (selector : ReplicaSelector) (budget : Backoffer)
    (client : Client ω) : StoreKind → Prop
  | .primary => ∃ error budget' client', error.isAbsence = true ∧
    (storeById (region.currentReplica selector).store).outcome budget client =
      ((.error error, budget'), client')
  | .columnar => ∃ budget' client',
    PassesOver .columnar region.learners budget client budget' client'

/-- The stores of some peers were looked up, and would not do; then the lookup of the
    next one has failed, for another reason than that the store is not there. -/
def Breaks (region : Region) (selector : ReplicaSelector) (budget : Backoffer)
    (client : Client ω) (kind : StoreKind) (error : RouteError) : Prop :=
  ∃ earlier peer later budget₁ client₁ budget' client',
    region.serving selector kind = earlier ++ peer :: later ∧
    PassesOver kind earlier budget client budget₁ client₁ ∧
    (storeById peer.store).outcome budget₁ client₁ = ((.error error, budget'), client') ∧
    error.isAbsence = false

section
variable (region : Region) (selector : ReplicaSelector) (budget : Backoffer) (client : Client ω)
  (kind : StoreKind)

theorem unserved_iff : Unserved region selector budget client kind ↔ ∃ budget' client',
    (servingStore region kind selector).outcome budget client =
      ((.ok none, budget'), client') := by
  simp only [← searches_iff]
  constructor
  · intro unserved
    cases kind with
    | primary =>
      obtain ⟨error, budget', client', absence, looked⟩ := unserved
      exact ⟨budget', client', .unserved (.absent looked absence .nil)⟩
    | columnar =>
      obtain ⟨budget', client', passed⟩ := unserved
      exact ⟨budget', client', .unserved passed⟩
  · rintro ⟨budget', client', ends⟩
    cases ends with | unserved passed => ?_
    cases kind with
    | columnar => exact ⟨budget', client', passed⟩
    | primary =>
      cases passed with
      | absent looked absence => exact ⟨_, _, _, absence, looked⟩
      | unfit _ unfit => cases unfit

theorem breaks_iff (error : RouteError) : Breaks region selector budget client kind error ↔
    ∃ budget' client', (servingStore region kind selector).outcome budget client =
      ((.error error, budget'), client') := by
  simp only [← searches_iff]
  constructor
  · rintro ⟨earlier, peer, later, budget₁, client₁, budget', client', tried, passed, looked, other⟩
    exact ⟨budget', client', .fails tried passed looked other⟩
  · rintro ⟨budget', client', ends⟩
    cases ends with
    | fails tried passed looked other =>
      exact ⟨_, _, _, _, _, budget', client', tried, passed, looked, other⟩

end

/-! ## What a route comes to -/

/-- What a route comes to, once its region is found.  It fails if no store serves the
    kind, with the error of such a region, and if the search breaks, with the
    failure it met; never otherwise.  The region is gone then just if no store
    serves, and that was counted and announced; if the search breaks, it stays. -/
structure Settles (region : Region) (kind : StoreKind) (selector : ReplicaSelector)
    (budget : Backoffer) (client : Client ω) (out : Outcome ω (Region × Store)) : Prop where
  fails (error : RouteError) : out.1.1 = .error error ↔
    Unserved region selector budget client kind ∧ error = .noStoreForKind region.id kind ∨
      Breaks region selector budget client kind error
  gone : out.2.cache.regions.get? region.id = none ↔ Unserved region selector budget client kind
  unserved : Unserved region selector budget client kind → client.Purges region out.2
  breaks (error : RouteError) : Breaks region selector budget client kind error →
    ¬Unserved region selector budget client kind ∧ client.Retains region out.2

/-- Where the region is cached, a route settles so. -/
theorem settles_routed {region : Region} {budget : Backoffer} {client : Client ω}
    (cached : client.cache.regions.get? region.id = some region) (kind : StoreKind)
    (selector : ReplicaSelector) : Settles region kind selector budget client
      (routed region kind ((servingStore region kind selector).outcome budget client)) := by
  have grown := (searches_servingStore region kind selector budget client).grows
  have unserved := unserved_iff region selector budget client kind
  have breaks := breaks_iff region selector budget client kind
  generalize (servingStore region kind selector).outcome budget client = out
    at grown unserved breaks ⊢
  obtain ⟨⟨error | _ | store, budget'⟩, client'⟩ := out
  · have served : ¬Unserved region selector budget client kind := by simp [unserved]
    have only (other : RouteError) :
        Breaks region selector budget client kind other ↔ error = other := by simp [breaks]
    have retained := grown.retains cached
    refine ⟨fun other => ?_, ?_, fun lacking => absurd lacking served,
      fun _ _ => ⟨served, retained⟩⟩
    · simp [routed, served, only]
    · simp [routed, served, retained.cached]
  · have lacking : Unserved region selector budget client kind := by simp [unserved]
    have finds (error : RouteError) : ¬Breaks region selector budget client kind error := by
      simp [breaks]
    have before : client'.cache.regions.get? region.id = some region := by
      rw [grown.regions, cached]
    have purged := Client.purges_invalidateRegion before
    have purges : client.Purges region (client'.invalidateRegion region).2 := by
      refine ⟨purged.gone, fun id other => ?_, ?_, ?_⟩
      · rw [purged.others id other, grown.regions]
      · rw [purged.notices, grown.notices, grown.subscribed]
      · rw [purged.counted, grown.invalidated]
    refine ⟨fun error => ?_, iff_of_true purges.gone lacking, fun _ => purges,
      fun error broken => absurd broken (finds error)⟩
    simp [routed, lacking, finds, eq_comm]
  · have served : ¬Unserved region selector budget client kind := by simp [unserved]
    have finds (error : RouteError) : ¬Breaks region selector budget client kind error := by
      simp [breaks]
    have retained := grown.retains cached
    refine ⟨fun error => ?_, ?_, fun lacking => absurd lacking served,
      fun error broken => absurd broken (finds error)⟩
    · simp [routed, served, finds]
    · simp [routed, served, retained.cached]

/-- A region that was found is cached, and so it is with all routes. -/
theorem settles_route {key : Key} {region : Region} {budget budget₁ : Backoffer}
    {client client₁ : Client ω} (consistent : client.cache.regions.Consistent)
    (found : (regionByKey key).outcome budget client = ((.ok region, budget₁), client₁))
    (kind : StoreKind) (selector : ReplicaSelector) : Settles region kind selector budget₁ client₁
      ((route key kind selector).outcome budget client) := by
  have resolved := resolves_regionByKey key budget client
  rw [found] at resolved
  rw [outcome_route kind selector found]
  exact settles_routed (resolved.get?_of_ok consistent) kind selector

end Lookup

/-! ## Routes in a run -/

namespace Run

/-- **Routing failures.** At every moment of a run, and whatever the authority answers:
    once the region of a key is found, a route fails with the error of a region
    without a store if none serves the kind, and then alone the region is dropped,
    counted and announced.  A failure that the search has met is returned as it is,
    and the region stays. -/
theorem routes_settled [Authority ω] [Prober ω] (run : Run ω) (i : Nat) {key : Key}
    {region : Region} {budget budget₁ : Backoffer} {client₁ : Client ω}
    (found : (Lookup.regionByKey key).outcome budget (run.moment i).client =
      ((.ok region, budget₁), client₁)) (kind : StoreKind) (selector : ReplicaSelector) :
    Lookup.Settles region kind selector budget₁ client₁
      ((Lookup.route key kind selector).outcome budget (run.moment i).client) :=
  Lookup.settles_route (run.wellFormed_moment i).toConsistent found kind selector

/-- A region that is led from a store which was removed. -/
def leaderGone : Script where
  regions := [({
      id := ⟨1⟩, range := ⟨[], []⟩, epoch := {}, peers := [⟨⟨1⟩, ⟨1⟩, .voter⟩] },
    ⟨⟨1⟩, ⟨1⟩, .voter⟩)]
  stores := (∅ : Std.ExtTreeMap StoreId StoreDescriptor).insert ⟨1⟩
    { id := ⟨1⟩, address := "gone", labels := [], state := .tombstone }

/-- The region is looked up.  From then on the authority refuses to tell of the store,
    and gives the error of a region without a store for its reason. -/
def leaderGoneRun : Run Script where
  world := leaderGone
  scheduler := .unwatched
  subscribed := true
  actions := [.regionByKey [7] {},
    .elsewhere (·.faultStore ⟨1⟩ [.raise (.noStoreForKind ⟨1⟩ .primary)])]
  unused := Scheduler.waiting_unwatched
  allowed := by
    rintro (_ | _ | i) action ⟨⟩ <;> exact ⟨by rintro _ ⟨⟩, by rintro _ ⟨⟩, by rintro _ ⟨⟩⟩

/-- At first the store is told to be removed, and the region is dropped. -/
theorem leaderGone_purged :
    let client := (leaderGoneRun.moment 1).client
    let client₁ := (client.record .lookup).record .hit
    let out := (Lookup.route [7] .primary .leader).outcome {} client
    ∃ region, (Lookup.regionByKey [7]).outcome {} client = ((.ok region, {}), client₁) ∧
      Lookup.Unserved region .leader {} client₁ .primary ∧
      Lookup.Settles region .primary .leader {} client₁ out := by
  intro client client₁ out
  have hit : (client.cache.regions.find? [7]).map Region.id = some ⟨1⟩ := by decide +kernel
  have gone : (out.2.cache.regions.get? ⟨1⟩).isNone := by decide +kernel
  obtain ⟨region, cached, id⟩ := Option.map_eq_some_iff.1 hit
  have found := Lookup.outcome_regionByKey_hit {} cached
  have settles := routes_settled leaderGoneRun 1 found .primary .leader
  exact ⟨region, found, settles.gone.1 (id ▸ Option.isNone_iff_eq_none.1 gone), settles⟩

/-- Later the lookup of the store is refused.  The route fails with the same error,
    though there is no telling whether a store serves, and the region stays. -/
theorem leaderGone_refused :
    let client := (leaderGoneRun.moment 2).client
    let client₁ := (client.record .lookup).record .hit
    let out := (Lookup.route [7] .primary .leader).outcome {} client
    ∃ region, (Lookup.regionByKey [7]).outcome {} client = ((.ok region, {}), client₁) ∧
      out.1.1 = .error (.noStoreForKind region.id .primary) ∧
      ¬Lookup.Unserved region .leader {} client₁ .primary ∧ client₁.Retains region out.2 := by
  intro client client₁ out
  have hit : (client.cache.regions.find? [7]).map Region.id = some ⟨1⟩ := by decide +kernel
  have stays : (out.2.cache.regions.get? ⟨1⟩).isSome := by decide +kernel
  have refused : out.1.1.map (fun _ => ()) = .error (.noStoreForKind ⟨1⟩ .primary) := by
    decide +kernel
  obtain ⟨region, cached, id⟩ := Option.map_eq_some_iff.1 hit
  have found := Lookup.outcome_regionByKey_hit {} cached
  have consistent := (leaderGoneRun.wellFormed_moment 2).toConsistent
  have settles : Lookup.Settles region .primary .leader {} client₁ out :=
    Lookup.settles_route consistent found .primary .leader
  have failed : out.1.1 = .error (.noStoreForKind region.id .primary) := by
    generalize out.1.1 = result at refused
    cases result <;> cases refused
    rw [id]
  have served : ¬Lookup.Unserved region .leader {} client₁ .primary := by
    intro lacking
    have gone := settles.gone.2 lacking
    rw [id] at gone
    rw [gone] at stays
    cases stays
  obtain ⟨lacking, -⟩ | broken := (settles.fails _).1 failed
  · exact absurd lacking served
  · exact ⟨region, found, failed, served, (settles.breaks _ broken).2⟩

end Run
end RegionRouting
