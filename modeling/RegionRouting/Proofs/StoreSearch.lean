/-
  Region routing — the search for a store that serves a request.

  Once the region of a key is known, the stores of some of its peers are looked up
  one after the other: that of the current replica alone, or those of the learners.
  A store that is not there, or that lacks the label of the kind, is passed over;
  the first other one is taken.  Any other failure ends the search.

  * `Region.serving` are the peers that are tried, and `StoreKind.accepts` says
    which of their stores will do;
  * `Lookup.PassesOver`: the stores of some peers were looked up, and none would do;
  * `Lookup.Searches` lists the ends that a search may come to, and
    `Lookup.searches_iff` says that it comes to one of them, and to one alone;
  * `Lookup.outcome_route`: a key is routed by such a search.
-/
import RegionRouting.Proofs.LookupEffect

namespace RegionRouting

variable {ω α β : Type}

/-! ## Who may serve -/

/-- Does the error say that a store is not there: it is tombstoned, or the authority
    does not know it? -/
def RouteError.isAbsence : RouteError → Bool
  | storeNotFound _ | authority (.storeNotFound _) => true
  | _ => false

/-- Does a store serve requests of the kind?  Without a label any store does. -/
def StoreKind.accepts (kind : StoreKind) (store : Store) : Bool :=
  kind.label.all store.hasLabel

/-- The peers whose stores are tried for a kind of request, in order. -/
def Region.serving (region : Region) (selector : ReplicaSelector) : StoreKind → List Peer
  | .primary => [region.currentReplica selector]
  | .columnar => region.learners

namespace Lookup

/-! ## Failures that are caught -/

section
variable (budget : Backoffer) (client : Client ω)

/-- Goes on with the failure of an outcome, if it is one. -/
def Outcome.orElse (out : Outcome ω α) (handler : RouteError → Lookup ω α) : Outcome ω α :=
  match out with
  | ((.ok a, budget), client) => ((.ok a, budget), client)
  | ((.error error, budget), client) => (handler error).outcome budget client

theorem outcome_tryCatch (lookup : Lookup ω α) (handler : RouteError → Lookup ω α) :
    (tryCatch lookup handler).outcome budget client =
      (lookup.outcome budget client).orElse handler := by
  refine (Routine.run_bind (lookup budget) _ client).trans ?_
  rcases h : (lookup budget).run client with ⟨⟨_ | a, budget'⟩, client'⟩ <;>
    simp only [outcome, h] <;> rfl

theorem outcome_map (f : α → β) (lookup : Lookup ω α) :
    (f <$> lookup).outcome budget client =
      (lookup.outcome budget client).andThen fun a => pure (f a) := by
  rw [map_eq_pure_bind, outcome_bind]

@[simp] theorem outcome_ofRoutine (routine : Routine (Client ω) α) :
    (ofRoutine routine).outcome budget client =
      ((.ok (routine.run client).1, budget), (routine.run client).2) :=
  Routine.run_bind routine _ client

end

variable [Authority ω] {kind : StoreKind} {peer : Peer} {earlier later peers : List Peer}
  {budget budget₁ budget₂ : Backoffer} {client client₁ client₂ : Client ω}
  {error : RouteError} {store : Store}

/-- A store that is not there is no failure to find one. -/
theorem outcome_findStore_of_absence {id : StoreId}
    (looked : (storeById id).outcome budget client = ((.error error, budget₁), client₁))
    (absence : error.isAbsence = true) :
    (findStore id).outcome budget client = ((.ok none, budget₁), client₁) := by
  rw [findStore, outcome_tryCatch, outcome_map, looked, Outcome.andThen_error]
  unfold RouteError.isAbsence at absence
  split at absence
  · rfl
  · rfl
  · cases absence

theorem outcome_findStore_of_error {id : StoreId}
    (looked : (storeById id).outcome budget client = ((.error error, budget₁), client₁))
    (other : error.isAbsence = false) :
    (findStore id).outcome budget client = ((.error error, budget₁), client₁) := by
  rw [findStore, outcome_tryCatch, outcome_map, looked, Outcome.andThen_error]
  simp only [Outcome.orElse]
  split
  · cases other
  · cases other
  · rfl

theorem outcome_findStore_of_ok {id : StoreId}
    (looked : (storeById id).outcome budget client = ((.ok store, budget₁), client₁)) :
    (findStore id).outcome budget client = ((.ok (some store), budget₁), client₁) := by
  rw [findStore, outcome_tryCatch, outcome_map, looked]
  rfl

/-! ## Trying one peer after another -/

/-- The first store of some peers that serves a kind of request. -/
def seek (kind : StoreKind) : List Peer → Lookup ω (Option Store)
  | [] => return none
  | peer :: peers => do
    match ← findStore peer.store with
    | none => seek kind peers
    | some store => if kind.accepts store then return some store else seek kind peers

/-- The search for labelled stores is one, and so is the lookup of one store. -/
theorem outcome_servingStore (region : Region) (kind : StoreKind) (selector : ReplicaSelector)
    (budget : Backoffer) (client : Client ω) :
    (servingStore region kind selector).outcome budget client =
      (seek kind (region.serving selector kind)).outcome budget client := by
  cases kind with
  | primary =>
    change (findStore (region.currentReplica selector).store).outcome budget client =
      (findStore (region.currentReplica selector).store >>= _).outcome budget client
    rw [outcome_bind]
    generalize (findStore (region.currentReplica selector).store).outcome budget client = out
    obtain ⟨⟨_ | _ | store, budget'⟩, client'⟩ := out <;> rfl
  | columnar =>
    have same (peers : List Peer) :
        findLabelled (ω := ω) columnarEngine peers = seek .columnar peers := by
      induction peers with
      | nil => rfl
      | cons peer peers ih =>
        rw [findLabelled, seek, ih]
        rfl
    exact congrArg (fun lookup => outcome lookup budget client) (same region.learners)

/-- The stores of the peers were looked up in turn, and none of them would do: each
    is not there, or does not serve the kind. -/
inductive PassesOver (kind : StoreKind) :
    List Peer → Backoffer → Client ω → Backoffer → Client ω → Prop
  | nil {budget : Backoffer} {client : Client ω} : PassesOver kind [] budget client budget client
  | absent {peer : Peer} {peers : List Peer} {budget budget₁ budget₂ : Backoffer}
      {client client₁ client₂ : Client ω} {error : RouteError}
      (looked : (storeById peer.store).outcome budget client = ((.error error, budget₁), client₁))
      (absence : error.isAbsence = true)
      (rest : PassesOver kind peers budget₁ client₁ budget₂ client₂) :
      PassesOver kind (peer :: peers) budget client budget₂ client₂
  | unfit {peer : Peer} {peers : List Peer} {budget budget₁ budget₂ : Backoffer}
      {client client₁ client₂ : Client ω} {store : Store}
      (looked : (storeById peer.store).outcome budget client = ((.ok store, budget₁), client₁))
      (unfit : kind.accepts store = false)
      (rest : PassesOver kind peers budget₁ client₁ budget₂ client₂) :
      PassesOver kind (peer :: peers) budget client budget₂ client₂

/-- A search goes on after the peers that it has passed over. -/
theorem PassesOver.outcome_seek (h : PassesOver kind earlier budget client budget₁ client₁)
    (peers : List Peer) : (seek kind (earlier ++ peers)).outcome budget client =
      (seek kind peers).outcome budget₁ client₁ := by
  induction h with
  | nil => rfl
  | absent looked absence _ ih =>
    rw [List.cons_append, seek, outcome_bind, outcome_findStore_of_absence looked absence]
    exact ih
  | unfit looked unfit _ ih =>
    rw [List.cons_append, seek, outcome_bind, outcome_findStore_of_ok looked, Outcome.andThen_ok]
    dsimp only
    rw [unfit]
    exact ih

theorem grows_of_looked {id : StoreId} {result : Except RouteError Store}
    (looked : (storeById id).outcome budget client = ((result, budget₁), client₁)) :
    client.Grows client₁ := by
  have grown := grows_storeById id budget client
  rwa [looked] at grown

/-- To look up stores adds to the stores, and leaves the regions. -/
theorem PassesOver.grows (h : PassesOver kind peers budget client budget₁ client₁) :
    client.Grows client₁ := by
  induction h with
  | nil => exact .refl _
  | absent looked _ _ ih | unfit looked _ _ ih => exact (grows_of_looked looked).trans ih

/-! ## How a search ends -/

/-- The ends that a search may come to: no peer has a store that serves; one has, and
    those before it were passed over; or a lookup fails, for another reason than
    that the store is not there. -/
inductive Searches (kind : StoreKind) (peers : List Peer) (budget : Backoffer)
    (client : Client ω) : Outcome ω (Option Store) → Prop
  | unserved {budget' : Backoffer} {client' : Client ω}
      (passed : PassesOver kind peers budget client budget' client') :
      Searches kind peers budget client ((.ok none, budget'), client')
  | served {earlier later : List Peer} {peer : Peer} {budget₁ budget' : Backoffer}
      {client₁ client' : Client ω} {store : Store} (tried : peers = earlier ++ peer :: later)
      (passed : PassesOver kind earlier budget client budget₁ client₁)
      (looked : (storeById peer.store).outcome budget₁ client₁ = ((.ok store, budget'), client'))
      (fit : kind.accepts store = true) :
      Searches kind peers budget client ((.ok (some store), budget'), client')
  | fails {earlier later : List Peer} {peer : Peer} {budget₁ budget' : Backoffer}
      {client₁ client' : Client ω} {error : RouteError} (tried : peers = earlier ++ peer :: later)
      (passed : PassesOver kind earlier budget client budget₁ client₁)
      (looked : (storeById peer.store).outcome budget₁ client₁ = ((.error error, budget'), client'))
      (other : error.isAbsence = false) :
      Searches kind peers budget client ((.error error, budget'), client')

theorem Searches.outcome_seek {out : Outcome ω (Option Store)}
    (h : Searches kind peers budget client out) :
    (seek kind peers).outcome budget client = out := by
  cases h with
  | unserved passed =>
    rw [← List.append_nil peers, passed.outcome_seek]
    rfl
  | served tried passed looked fit =>
    rw [tried, passed.outcome_seek, seek, outcome_bind, outcome_findStore_of_ok looked,
      Outcome.andThen_ok]
    dsimp only
    rw [if_pos fit]
    rfl
  | fails tried passed looked other =>
    rw [tried, passed.outcome_seek, seek, outcome_bind, outcome_findStore_of_error looked other]
    rfl

/-- A search that passes over the first peer ends as that of the others does. -/
theorem Searches.cons {out : Outcome ω (Option Store)}
    (pass : ∀ {passed : List Peer} {budget₂ : Backoffer} {client₂ : Client ω},
      PassesOver kind passed budget₁ client₁ budget₂ client₂ →
        PassesOver kind (peer :: passed) budget client budget₂ client₂)
    (rest : Searches kind peers budget₁ client₁ out) :
    Searches kind (peer :: peers) budget client out := by
  cases rest with
  | unserved passed => exact .unserved (pass passed)
  | served tried passed looked fit =>
    exact .served (congrArg (peer :: ·) tried) (pass passed) looked fit
  | fails tried passed looked other =>
    exact .fails (congrArg (peer :: ·) tried) (pass passed) looked other

theorem searches (kind : StoreKind) : ∀ (peers : List Peer) (budget : Backoffer)
    (client : Client ω), ∃ out, Searches kind peers budget client out
  | [], _, _ => ⟨_, .unserved .nil⟩
  | peer :: peers, budget, client => by
    rcases looked : (storeById peer.store).outcome budget client with
      ⟨⟨error | store, budget₁⟩, client₁⟩
    · cases absence : error.isAbsence with
      | false => exact ⟨_, .fails (List.nil_append _).symm .nil looked absence⟩
      | true =>
        obtain ⟨out, rest⟩ := searches kind peers budget₁ client₁
        exact ⟨out, rest.cons (.absent looked absence)⟩
    · cases fit : kind.accepts store with
      | true => exact ⟨_, .served (List.nil_append _).symm .nil looked fit⟩
      | false =>
        obtain ⟨out, rest⟩ := searches kind peers budget₁ client₁
        exact ⟨out, rest.cons (.unfit looked fit)⟩

/-- **Searches.** A search comes to one of the ends, and to no other. -/
theorem searches_iff {region : Region} {selector : ReplicaSelector}
    {out : Outcome ω (Option Store)} :
    Searches kind (region.serving selector kind) budget client out ↔
      (servingStore region kind selector).outcome budget client = out := by
  rw [outcome_servingStore]
  constructor
  · exact Searches.outcome_seek
  · rintro rfl
    obtain ⟨out, ends⟩ := searches kind (region.serving selector kind) budget client
    rwa [ends.outcome_seek]

theorem searches_servingStore (region : Region) (kind : StoreKind) (selector : ReplicaSelector)
    (budget : Backoffer) (client : Client ω) :
    Searches kind (region.serving selector kind) budget client
      ((servingStore region kind selector).outcome budget client) :=
  searches_iff.2 rfl

/-- To search adds to the stores, and leaves the regions. -/
theorem Searches.grows {out : Outcome ω (Option Store)}
    (h : Searches kind peers budget client out) : client.Grows out.2 := by
  cases h with
  | unserved passed => exact passed.grows
  | served _ passed looked | fails _ passed looked =>
    exact passed.grows.trans (grows_of_looked looked)

/-! ## Routes -/

/-- What a search for a store of a region makes of a route: the pair, or else the
    region is dropped. -/
def routed (region : Region) (kind : StoreKind) :
    Outcome ω (Option Store) → Outcome ω (Region × Store)
  | ((.ok (some store), budget), client) => ((.ok (region, store), budget), client)
  | ((.ok none, budget), client) =>
    ((.error (.noStoreForKind region.id kind), budget), (client.invalidateRegion region).2)
  | ((.error error, budget), client) => ((.error error, budget), client)

/-- Once the region of a key is found, a search tells how the key is routed. -/
theorem outcome_route {key : Key} {region : Region} (kind : StoreKind)
    (selector : ReplicaSelector)
    (found : (regionByKey key).outcome budget client = ((.ok region, budget₁), client₁)) :
    (route key kind selector).outcome budget client =
      routed region kind ((servingStore region kind selector).outcome budget₁ client₁) := by
  have named : (regionToServe key kind).outcome budget client =
      ((.ok region, budget₁), client₁) := by
    rw [regionToServe, outcome_tryCatch, found]
    rfl
  rw [route, outcome_bind, named, Outcome.andThen_ok, outcome_bind]
  generalize (servingStore region kind selector).outcome budget₁ client₁ = out
  obtain ⟨⟨_ | _ | store, budget'⟩, client'⟩ := out
  · rfl
  · rw [Outcome.andThen_ok, outcome_bind, outcome_ofRoutine, Operation.run_invalidateRegion]
    rfl
  · rfl

/-- A key is not routed before its region is found. -/
theorem exists_region_of_route {key : Key} {selector : ReplicaSelector} {pair : Region × Store}
    (ok : ((route key kind selector).outcome budget client).1.1 = .ok pair) :
    ∃ region budget₁ client₁,
      (regionByKey key).outcome budget client = ((.ok region, budget₁), client₁) := by
  rcases found : (regionByKey key).outcome budget client with ⟨⟨error | region, budget₁⟩, client₁⟩
  · -- whatever the failure is renamed to, it is one
    have failed : ∃ error', (regionToServe key kind).outcome budget client =
        ((.error error', budget₁), client₁) := by
      rw [regionToServe, outcome_tryCatch, found]
      simp only [Outcome.orElse]
      split <;> exact ⟨_, rfl⟩
    obtain ⟨error', failed⟩ := failed
    rw [route, outcome_bind, failed, Outcome.andThen_error] at ok
    cases ok
  · exact ⟨region, budget₁, client₁, rfl⟩

end Lookup
end RegionRouting
