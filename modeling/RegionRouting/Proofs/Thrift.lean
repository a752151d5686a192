/-
  Region routing — one budget for an operation.

  A lookup makes many calls: about a region, about the stores of its peers, about
  the store that is to serve.  The budget is handed from one call to the next, and
  a fault that it cannot pay for ends the lookup.

  * `Lookup.Thrifty`: what a lookup shows is paid from its budget, and it fails
    where the signs stop; so do all lookups;
  * `OneBudget` says what this comes to for someone who watches the operation;
  * `Router.one_budget`: each operation of a router spends one budget.
-/
import RegionRouting.Proofs.Budget
import RegionRouting.Proofs.StoreSwap
import RegionRouting.Router

namespace RegionRouting

variable {α β ω : Type}

/-! ## Thrifty lookups -/

namespace Lookup

/-- The signs are paid from the budget; the fault that it cannot pay for is the
    result. -/
def Paid (budget : Backoffer) (signs : List Sign) (result : Except RouteError α)
    (budget' : Backoffer) : Prop :=
  ∃ stop, Spends budget signs stop budget' ∧
    ∀ error, stop = some error → result = .error (.backoffExhausted budget'.attempts error)

/-- The signs are, whatever the result, if they do not stop. -/
theorem paid_of_spends {budget budget' : Backoffer} {signs : List Sign}
    (h : Spends budget signs none budget') (result : Except RouteError α) :
    Paid budget signs result budget' := by
  refine ⟨none, h, ?_⟩
  rintro _ ⟨⟩

/-- Is what the lookup shows paid from its budget? -/
def Thrifty (lookup : Lookup (Monitored ω) α) : Prop :=
  ∀ budget signs result budget', (lookup budget).Shows signs (result, budget') →
    Paid budget signs result budget'

variable {lookup : Lookup (Monitored ω) α}

theorem thrifty_pure (a : α) : Thrifty (pure a : Lookup (Monitored ω) α) := by
  intro budget signs result budget' h
  obtain ⟨rfl, same⟩ := Routine.shows_done.1 h
  cases same
  exact paid_of_spends (.rest budget) _

theorem thrifty_throw (error : RouteError) : Thrifty (throw error : Lookup (Monitored ω) α) := by
  intro budget signs result budget' h
  obtain ⟨rfl, same⟩ := Routine.shows_done.1 h
  cases same
  exact paid_of_spends (.rest budget) _

/-- What places no calls is. -/
theorem thrifty_ofRoutine {routine : Routine (Client (Monitored ω)) α}
    (silent : ∀ signs a, routine.Shows signs a → signs = []) : Thrifty (ofRoutine routine) := by
  intro budget signs result budget' h
  obtain ⟨before, a, rest, rfl, shown, h⟩ := Routine.shows_bind.1 h
  obtain ⟨rfl, same⟩ := Routine.shows_done.1 h
  cases same
  rw [silent before a shown]
  exact paid_of_spends (.rest budget) _

theorem thrifty_perform {f : Client (Monitored ω) → α × Client (Monitored ω)}
    (kept : ∀ client, (f client).2.world = client.world) :
    Thrifty (ofRoutine (.perform f)) := by
  refine thrifty_ofRoutine fun signs a h => ?_
  obtain ⟨found, rfl, -⟩ := Routine.shows_perform.1 h
  exact Client.shown_of_eq (congrArg Monitored.signs (kept found))

theorem thrifty_read (view : Client (Monitored ω) → α) : Thrifty (read view) :=
  thrifty_perform fun _ => rfl

theorem thrifty_change {f : Client (Monitored ω) → Client (Monitored ω)}
    (kept : ∀ client, (f client).world = client.world) : Thrifty (change f) :=
  thrifty_perform kept

theorem thrifty_create (make : Ledger → α × Ledger) :
    Thrifty (create (ω := Monitored ω) make) :=
  thrifty_perform fun _ => rfl

/-- The second lookup spends what the first has left. -/
theorem Thrifty.bind {next : α → Lookup (Monitored ω) β} (h : Thrifty lookup)
    (h' : ∀ a, Thrifty (next a)) : Thrifty (lookup >>= next) := by
  intro budget signs result budget' shows
  rw [bind_apply] at shows
  obtain ⟨before, ⟨first, budget₁⟩, rest, rfl, shows, later⟩ := Routine.shows_bind.1 shows
  obtain ⟨stop, spent, failed⟩ := h budget before first budget₁ shows
  cases first with
  | error error =>
    obtain ⟨rfl, same⟩ := Routine.shows_done.1 later
    cases same
    rw [List.append_nil]
    refine ⟨stop, spent, fun fault stopped => ?_⟩
    cases failed fault stopped
    rfl
  | ok a =>
    obtain ⟨stop', spent', failed'⟩ := h' a budget₁ rest result budget' later
    cases stop with
    | none => exact ⟨stop', spent.append spent', failed'⟩
    | some fault => cases failed fault rfl

theorem Thrifty.map (h : Thrifty lookup) (f : α → β) : Thrifty (f <$> lookup) := by
  rw [map_eq_pure_bind]
  exact h.bind fun a => thrifty_pure (f a)

/-- A failure may be caught, unless the budget is exhausted. -/
theorem Thrifty.tryCatch {handler : RouteError → Lookup (Monitored ω) α} (h : Thrifty lookup)
    (h' : ∀ error, Thrifty (handler error))
    (rethrows : ∀ attempts fault, handler (.backoffExhausted attempts fault) =
      throw (.backoffExhausted attempts fault)) : Thrifty (tryCatch lookup handler) := by
  intro budget signs result budget' shows
  obtain ⟨before, ⟨first, budget₁⟩, rest, rfl, shows, later⟩ := Routine.shows_bind.1 shows
  obtain ⟨stop, spent, failed⟩ := h budget before first budget₁ shows
  cases first with
  | error error =>
    cases stop with
    | none =>
      obtain ⟨stop', spent', failed'⟩ := h' error budget₁ rest result budget' later
      exact ⟨stop', spent.append spent', failed'⟩
    | some fault =>
      cases failed fault rfl
      dsimp only at later
      rw [rethrows] at later
      obtain ⟨rfl, same⟩ := Routine.shows_done.1 later
      cases same
      rw [List.append_nil]
      refine ⟨some fault, spent, ?_⟩
      rintro _ ⟨⟩
      rfl
  | ok a =>
    obtain ⟨rfl, same⟩ := Routine.shows_done.1 later
    cases same
    rw [List.append_nil]
    exact ⟨stop, spent, failed⟩

theorem Thrifty.exclusively (h : Thrifty lookup) : Thrifty (exclusively lookup) :=
  fun budget signs result budget' shows =>
    h budget signs result budget' (Routine.shows_exclusively.1 shows)

/-! ## Calls -/

/-- One attempt after another: each fault is paid for, until the budget is spent. -/
theorem spends_persist {attempt : Monitored ω → Attempt α × Monitored ω}
    (marks : ∀ world, (attempt world).2.signs = world.signs ++ (attempt world).1.signs)
    {budget budget' : Backoffer} {signs : List Sign} {result : Except RouteError α}
    (h : (budget.persist (σ := Client (Monitored ω)) (·.onWorld attempt)).Shows signs
      (result, budget')) : Paid budget signs result budget' := by
  induction budget using Backoffer.persist.induct generalizing signs with
  | case1 budget ih =>
    rw [Backoffer.persist, Routine.shows_act] at h
    obtain ⟨found, rest, rfl, h⟩ := h
    have shown : found.shown (found.onWorld attempt).2 = (attempt found.world).1.signs :=
      Client.shown_of_append (marks found.world)
    rw [shown]
    dsimp only [Client.onWorld] at h
    generalize (attempt found.world).1 = attempted at h ⊢
    cases attempted with
    | answer answer =>
      obtain ⟨rfl, same⟩ := Routine.shows_done.1 h
      cases same
      exact paid_of_spends (.rest _) _
    | fault error =>
      dsimp only at h
      split at h
      · next failure refused =>
        obtain ⟨rfl, same⟩ := Routine.shows_done.1 h
        cases same
        rcases Backoffer.backoff_eq_error refused with lasting | ⟨retryable, short, rfl⟩
        · exact paid_of_spends (.lasting lasting (.rest _)) _
        · refine ⟨some error, .exhausted retryable short, ?_⟩
          rintro _ ⟨⟩
          rfl
      · next granted =>
        obtain ⟨later, rfl, again⟩ := Routine.shows_sleep.1 h
        obtain ⟨stop, spent, failed⟩ := ih _ _ _ granted again
        exact ⟨stop, .waited granted spent, failed⟩

variable [Authority ω]

/-- A call costs nothing until it is heard. -/
theorem thrifty_ask {call : Call} {attempt : Monitored ω → Attempt α × Monitored ω}
    (marks : ∀ world, (attempt world).2.signs = world.signs ++ (attempt world).1.signs) :
    Thrifty (ask call attempt) := by
  intro budget signs result budget' shows
  obtain ⟨before, delay, rest, rfl, placed, heard⟩ := Routine.shows_bind.1 shows
  obtain ⟨found, rfl, -⟩ := Routine.shows_perform.1 placed
  obtain ⟨slept, _, later, rfl, paused, persists⟩ := Routine.shows_bind.1 heard
  obtain ⟨still, rfl, done⟩ := Routine.shows_sleep.1 paused
  obtain ⟨rfl, -⟩ := Routine.shows_done.1 done
  have shown : found.shown (found.onWorld (Authority.place call)).2 = [.placed call] :=
    Client.shown_of_append rfl
  rw [shown]
  obtain ⟨stop, spent, failed⟩ := spends_persist marks persists
  exact ⟨stop, .placed call delay spent, failed⟩

theorem thrifty_askRegion (query : RegionQuery) : Thrifty (askRegion (ω := Monitored ω) query) :=
  thrifty_ask fun _ => rfl

theorem thrifty_askStore (id : StoreId) : Thrifty (askStore (ω := Monitored ω) id) :=
  thrifty_ask fun _ => rfl

/-! ## Stores -/

theorem thrifty_loadStore (id : StoreId) : Thrifty (loadStore (ω := Monitored ω) id) := by
  refine Thrifty.bind (thrifty_read _) fun cached => ?_
  cases cached with
  | some store => exact thrifty_pure _
  | none =>
    refine Thrifty.bind (thrifty_change fun _ => rfl) fun _ => ?_
    refine Thrifty.bind (thrifty_askStore id) fun descriptor => ?_
    refine Thrifty.bind (thrifty_create _) fun store => ?_
    split
    · exact thrifty_pure _
    · exact Thrifty.bind (thrifty_change fun _ => rfl) fun _ => thrifty_pure _

theorem thrifty_loadStores : ∀ peers, Thrifty (loadStores (ω := Monitored ω) peers)
  | [] => thrifty_pure _
  | _ :: peers => Thrifty.bind (thrifty_loadStore _) fun _ =>
    Thrifty.bind (thrifty_loadStores peers) fun _ => thrifty_pure _

theorem thrifty_storeById (id : StoreId) : Thrifty (storeById (ω := Monitored ω) id) := by
  refine Thrifty.bind (thrifty_loadStore id).exclusively fun found => ?_
  cases found with
  | some store => exact thrifty_pure store
  | none => exact thrifty_throw _

/-- That a store is not found is no failure, but an exhausted budget is. -/
theorem thrifty_findStore (id : StoreId) : Thrifty (findStore (ω := Monitored ω) id) := by
  refine Thrifty.tryCatch ((thrifty_storeById id).map some) (fun error => ?_) fun _ _ => rfl
  split
  · exact thrifty_pure none
  · exact thrifty_pure none
  · exact thrifty_throw _

/-! ## Regions -/

omit [Authority ω] in
theorem thrifty_insert (region : Region) : Thrifty (insert (ω := Monitored ω) region) :=
  Thrifty.bind (thrifty_read _) fun _ =>
    Thrifty.bind (thrifty_change fun _ => rfl) fun _ => thrifty_pure _

theorem thrifty_fetch (query : RegionQuery) : Thrifty (fetch (ω := Monitored ω) query) := by
  rw [fetch_eq]
  refine Thrifty.bind (thrifty_change fun _ => rfl) fun _ => ?_
  refine Thrifty.bind (thrifty_askRegion query) fun answer => ?_
  refine Thrifty.bind (thrifty_loadStores _) fun stores => ?_
  refine Thrifty.bind (thrifty_create _) fun region => ?_
  split
  · exact Thrifty.bind (thrifty_throw _) fun _ => thrifty_insert region
  · exact thrifty_insert region

omit [Authority ω] in
theorem thrifty_announced (settled : Region × List Region) :
    Thrifty (announced (ω := Monitored ω) settled) := by
  refine Thrifty.bind (thrifty_change fun client => ?_) fun _ => thrifty_pure _
  rw [Client.announceEvicted_eq]

theorem thrifty_regionByKey (key : Key) : Thrifty (regionByKey (ω := Monitored ω) key) := by
  have settles : Thrifty (settleKey (ω := Monitored ω) key) := by
    refine Thrifty.bind (thrifty_read _) fun found => ?_
    cases found with
    | some region => exact Thrifty.bind (thrifty_change fun _ => rfl) fun _ => thrifty_pure _
    | none => exact Thrifty.bind (thrifty_change fun _ => rfl) fun _ => thrifty_fetch _
  refine Thrifty.bind (thrifty_change fun _ => rfl) fun _ => ?_
  exact Thrifty.bind settles.exclusively thrifty_announced

theorem thrifty_regionById (id : RegionId) : Thrifty (regionById (ω := Monitored ω) id) := by
  have settles : Thrifty (settleId (ω := Monitored ω) id) := by
    refine Thrifty.bind (thrifty_read _) fun found => ?_
    cases found with
    | some region => exact thrifty_pure _
    | none => exact thrifty_fetch _
  exact Thrifty.bind settles.exclusively thrifty_announced

/-! ## Routes -/

/-- The errors of a lookup are told otherwise, but not that of an exhausted budget. -/
theorem thrifty_regionToServe (key : Key) (kind : StoreKind) :
    Thrifty (regionToServe (ω := Monitored ω) key kind) := by
  refine Thrifty.tryCatch (thrifty_regionByKey key) (fun error => ?_) fun _ _ => rfl
  split <;> exact thrifty_throw _

theorem thrifty_findLabelled (label : StoreLabel) :
    ∀ peers, Thrifty (findLabelled (ω := Monitored ω) label peers)
  | [] => thrifty_pure none
  | peer :: peers => by
    refine Thrifty.bind (thrifty_findStore peer.store) fun found => ?_
    cases found with
    | none => exact thrifty_findLabelled label peers
    | some store =>
      dsimp only
      split
      · exact thrifty_pure _
      · exact thrifty_findLabelled label peers

theorem thrifty_servingStore (region : Region) (kind : StoreKind) (selector : ReplicaSelector) :
    Thrifty (servingStore (ω := Monitored ω) region kind selector) := by
  unfold servingStore
  split
  · exact thrifty_findStore _
  · exact thrifty_findLabelled _ _

theorem thrifty_route (key : Key) (kind : StoreKind) (selector : ReplicaSelector) :
    Thrifty (route (ω := Monitored ω) key kind selector) := by
  refine Thrifty.bind (thrifty_regionToServe key kind) fun region => ?_
  refine Thrifty.bind (thrifty_servingStore region kind selector) fun found => ?_
  cases found with
  | some store => exact thrifty_pure _
  | none =>
    refine Thrifty.bind (thrifty_ofRoutine fun signs a shows => ?_) fun _ => thrifty_throw _
    obtain ⟨found, rfl, -⟩ := Routine.shows_perform.1 (Routine.shows_exclusively.1 shows)
    obtain ⟨_, _, eq⟩ := found.invalidateRegion_snd region
    rw [eq]
    exact Client.shown_of_eq rfl

end Lookup

/-! ## One budget -/

/-- What someone sees of an operation, with the limits of its budget: there are only
    so many waits, and they take only so long; and a fault that a retry may help
    is waited for as long as the limits allow it, and ends the operation
    otherwise. -/
structure OneBudget (config : BackoffConfig) (signs : List Sign) (result : Except RouteError α) :
    Prop where
  attempts : (waits signs).length ≤ config.maxAttempts.toNat
  time : config.totalBudgetMs.toNat < 2 ^ 64 - 1 →
    (waits signs).sum ≤ config.totalBudgetMs.toNat
  retried (before after : List Sign) (error : AuthorityError) :
    signs = before ++ .faulted error :: after → error.isRetryable = true →
    (Backoffer.after config (waits before)).affordsRetry = true →
      ∃ rest, after = .slept (Backoffer.after config (waits before)).nextSleep.toNat :: rest
  exhausted (before after : List Sign) (error : AuthorityError) :
    signs = before ++ .faulted error :: after → error.isRetryable = true →
    (Backoffer.after config (waits before)).affordsRetry = false →
      after = [] ∧ result = .error (.backoffExhausted (.ofNat (waits before).length) error)

theorem Lookup.Paid.oneBudget {config : BackoffConfig} {signs : List Sign}
    {result : Except RouteError α} {budget' : Backoffer}
    (h : Paid { config } signs result budget') :
    OneBudget config signs result := by
  obtain ⟨stop, spent, failed⟩ := h
  rw [← Backoffer.after_nil] at spent
  have permitted : config.Permits (waits signs) := spent.within config.permits_nil
  refine ⟨permitted.attempts, permitted.time, ?_, ?_⟩
  · rintro before after error rfl retryable affords
    obtain ⟨budget, paid, next⟩ := spent.fault retryable
    obtain rfl : budget = .after config (waits before) := paid.eq_after
    rcases next with ⟨-, waited⟩ | ⟨short, -⟩
    · exact waited
    · exact absurd (short.symm.trans affords) Bool.false_ne_true
  · rintro before after error rfl retryable short
    obtain ⟨budget, paid, next⟩ := spent.fault retryable
    obtain rfl : budget = .after config (waits before) := paid.eq_after
    rcases next with ⟨affords, -⟩ | ⟨-, last, stopped, rfl⟩
    · exact absurd (short.symm.trans affords) Bool.false_ne_true
    · exact ⟨last, failed error stopped⟩

theorem RoutingConfig.oneBudget_request [Authority ω] {config : RoutingConfig}
    {lookup : Lookup (Monitored ω) α} (thrifty : Lookup.Thrifty lookup) {signs : List Sign}
    {result : Except RouteError α} (shows : (config.request lookup).Shows signs result) :
    OneBudget config.backoff signs result := by
  rw [request, map_eq_pure_bind] at shows
  obtain ⟨before, ⟨found, budget'⟩, rest, rfl, shown, done⟩ := Routine.shows_bind.1 shows
  obtain ⟨rfl, rfl⟩ := Routine.shows_done.1 done
  rw [List.append_nil]
  exact (thrifty _ before _ budget' shown).oneBudget

namespace Router

/-- **One budget.** Each operation of a router spends one budget, over all the calls
    that it makes and whatever others do to the client. -/
theorem one_budget [Authority ω] (router : Router (Monitored ω)) :
    (∀ key signs result, (router.regionByKey key).Shows signs result →
      OneBudget router.config.backoff signs result) ∧
    (∀ id signs result, (router.regionById id).Shows signs result →
      OneBudget router.config.backoff signs result) ∧
    (∀ id signs result, (router.storeById id).Shows signs result →
      OneBudget router.config.backoff signs result) ∧
    (∀ key kind signs result, (router.resolve key kind).Shows signs result →
      OneBudget router.config.backoff signs result) := by
  refine ⟨?_, ?_, ?_, ?_⟩
  · intro key signs result shows
    exact RoutingConfig.oneBudget_request (Lookup.thrifty_regionByKey key) shows
  · intro id signs result shows
    exact RoutingConfig.oneBudget_request (Lookup.thrifty_regionById id) shows
  · intro id signs result shows
    exact RoutingConfig.oneBudget_request (Lookup.thrifty_storeById id) shows
  · intro key kind signs result shows
    exact RoutingConfig.oneBudget_request (Lookup.thrifty_route key kind _) shows

/-! ## A budget of two waits -/

/-- A region with a peer on each of the two nodes. -/
def shared : Placement :=
  ({ id := ⟨1⟩, range := ⟨[], []⟩, epoch := {},
      peers := [⟨⟨1⟩, ⟨1⟩, .voter⟩, ⟨⟨2⟩, ⟨2⟩, .voter⟩] },
    ⟨⟨1⟩, ⟨1⟩, .voter⟩)

/-- The first attempt of each call meets a fault. -/
def flaky : Script :=
  ((({ Run.twoNodes with regions := [shared] }).faultRegions [.retry (.timeout 5)]).faultStore ⟨1⟩
    [.retry (.unavailable "restarting")]).faultStore ⟨2⟩ [.retry (.internal "overload")]

def impatient : Router (Monitored Script) :=
  .start { backoff := { maxAttempts := 2 } } false { world := flaky }

/-- The budget pays for the region and for the first store, and not for the second. -/
theorem impatient_one_budget :
    let operation := impatient.resolve [7] .primary
    let signs := operation.signs impatient.client
    let result := (operation.run impatient.client).1
    operation.Shows signs result ∧ OneBudget impatient.config.backoff signs result ∧
    signs =
      [.placed (.region (.byKey [7])), .slept 0, .faulted (.timeout 5), .slept 100,
        .placed (.store ⟨1⟩), .slept 0, .faulted (.unavailable "restarting"), .slept 200,
        .placed (.store ⟨2⟩), .slept 0] ++ [.faulted (.internal "overload")] ∧
    result = .error (.backoffExhausted 2 (.internal "overload")) := by
  intro operation signs result
  have shows : operation.Shows signs result := Routine.shows_signs operation impatient.client
  have budgeted := (one_budget impatient).2.2.2 [7] .primary signs result shows
  have shown : signs =
      [.placed (.region (.byKey [7])), .slept 0, .faulted (.timeout 5), .slept 100,
        .placed (.store ⟨1⟩), .slept 0, .faulted (.unavailable "restarting"), .slept 200,
        .placed (.store ⟨2⟩), .slept 0] ++ [.faulted (.internal "overload")] := by decide +kernel
  exact ⟨shows, budgeted, shown,
    (budgeted.exhausted _ [] _ shown rfl (by decide +kernel)).2⟩

end Router
end RegionRouting
