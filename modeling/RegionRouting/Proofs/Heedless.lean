/-
  Region routing — lookups heed neither counters nor notices.

  What others count and announce meanwhile makes no difference to a lookup:
  it does the same to the rest of the client, and comes to the same.

  * `Client.adjust` counts lookups and announces evictions, and does no more;
  * `Routine.Heedless`: each act commutes with adjustments, and the lock is left
    alone; so does the whole routine (`Heedless.run_adjust`);
  * `Lookup.heedless_settleKey`: what a lookup of a key does under the lock is
    heedless.
-/
import RegionRouting.Proofs.Client
import RegionRouting.Proofs.Outcome

namespace RegionRouting

variable {ω α β : Type}

/-! ## Adjustments -/

namespace Client

/-- Counts some lookups, and counts and announces some evictions. -/
def adjust (client : Client ω) (lookups : Nat) (evicted : List Region) : Client ω :=
  { client with
    metrics := { client.metrics with
      regionLookups := client.metrics.regionLookups + .ofNat lookups
      regionsInvalidated := client.metrics.regionsInvalidated + .ofNat evicted.length }
    notices := client.notices ++
      if client.subscribed then evicted.map fun region => .ofRegion region.id else [] }

variable (client : Client ω) {lookups lookups' : Nat} {evicted evicted' : List Region}

@[simp] theorem adjust_nil : client.adjust 0 [] = client := by
  simp [adjust]

theorem adjust_adjust : (client.adjust lookups evicted).adjust lookups' evicted' =
    client.adjust (lookups + lookups') (evicted ++ evicted') := by
  unfold adjust
  rw [List.length_append, List.map_append, UInt64.ofNat_add, UInt64.ofNat_add, ← UInt64.add_assoc,
    ← UInt64.add_assoc, List.append_assoc]
  split <;> rfl

theorem record_lookup : client.record .lookup = client.adjust 1 [] := by
  simp [record, adjust, Metrics.record]

theorem announceEvicted_eq_adjust : client.announceEvicted evicted = client.adjust 0 evicted := by
  rw [announceEvicted_eq]
  simp [adjust, Metrics.record]

/-- The order of evictions matters to the subscriber alone. -/
theorem adjust_perm (h : evicted.Perm evicted') : client.adjust lookups evicted =
    { client.adjust lookups evicted' with notices := (client.adjust lookups evicted).notices } := by
  simp only [adjust, h.length_eq]

theorem notices_adjust_perm (h : evicted.Perm evicted') :
    (client.adjust lookups evicted).notices.Perm (client.adjust lookups' evicted').notices := by
  refine List.Perm.append_left _ ?_
  split
  · exact h.map _
  · exact .refl _

end Client

/-! ## Heedless routines -/

namespace Routine

/-- Each act does the same to an adjusted client, and is followed by the same;
    and the lock is left alone. -/
def Heedless : Routine (Client ω) α → Prop
  | .done _ => True
  | .act change next =>
    (∀ client lookups evicted,
      change (client.adjust lookups evicted) = (change client).adjust lookups evicted ∧
        next (client.adjust lookups evicted) = next client) ∧
    ∀ client, (next client).Heedless
  | .acquire _ | .release _ => False
  | .sleep _ next => next.Heedless

theorem Heedless.bind {routine : Routine (Client ω) α} {next : α → Routine (Client ω) β}
    (h : routine.Heedless) (h' : ∀ a, (next a).Heedless) : (routine.bind next).Heedless := by
  induction routine with
  | done result => exact h' result
  | act change rest ih =>
    obtain ⟨commutes, heedless⟩ := h
    refine ⟨fun client lookups evicted => ?_, fun client => ih client (heedless client)⟩
    obtain ⟨changed, followed⟩ := commutes client lookups evicted
    exact ⟨changed, congrArg (Routine.bind · next) followed⟩
  | acquire | release => exact h.elim
  | sleep ms rest ih => exact ih h

theorem heedless_perform {f : Client ω → α × Client ω}
    (commutes : ∀ client lookups evicted, f (client.adjust lookups evicted) =
      ((f client).1, (f client).2.adjust lookups evicted)) :
    (perform f).Heedless := by
  refine ⟨fun client lookups evicted => ?_, fun _ => trivial⟩
  dsimp only
  rw [commutes client lookups evicted]
  exact ⟨rfl, rfl⟩

/-- Attempts at a call are heedless. -/
theorem heedless_persist (attempt : ω → Attempt α × ω) (budget : Backoffer) :
    (budget.persist (σ := Client ω) (·.onWorld attempt)).Heedless := by
  induction budget using Backoffer.persist.induct with
  | case1 budget ih =>
    rw [Backoffer.persist]
    refine ⟨fun client lookups evicted => ⟨rfl, rfl⟩, fun client => ?_⟩
    dsimp only
    split
    · trivial
    · split
      · trivial
      · next granted => exact ih _ _ _ granted

/-- A heedless routine does the same to an adjusted client. -/
theorem Heedless.run_adjust {routine : Routine (Client ω) α} (h : routine.Heedless)
    (client : Client ω) (lookups : Nat) (evicted : List Region) :
    routine.run (client.adjust lookups evicted) =
      ((routine.run client).1, (routine.run client).2.adjust lookups evicted) := by
  induction routine generalizing client with
  | done => rfl
  | act change next ih =>
    obtain ⟨commutes, heedless⟩ := h
    obtain ⟨changed, followed⟩ := commutes client lookups evicted
    rw [run, changed, followed]
    exact ih client (heedless client) (change client)
  | acquire | release => exact h.elim
  | sleep _ _ ih => exact ih h client

end Routine

/-! ## Heedless lookups -/

namespace Lookup

open Routine

/-- Goes on with a lookup, unless it is a failure. -/
def resume (next : α → Lookup ω β) :
    Except RouteError α × Backoffer → Routine (Client ω) (Except RouteError β × Backoffer)
  | (.ok a, budget) => next a budget
  | (.error error, budget) => .done (.error error, budget)

theorem bind_apply (lookup : Lookup ω α) (next : α → Lookup ω β) (budget : Backoffer) :
    (lookup >>= next) budget = (lookup budget).bind (resume next) := by
  refine congrArg (Routine.bind (lookup budget)) (funext fun result => ?_)
  obtain ⟨_ | a, budget⟩ := result <;> rfl

/-- Is the lookup heedless, whatever its budget? -/
def Heedless (lookup : Lookup ω α) : Prop :=
  ∀ budget, (lookup budget).Heedless

theorem Heedless.bind {lookup : Lookup ω α} {next : α → Lookup ω β} (h : Heedless lookup)
    (h' : ∀ a, Heedless (next a)) : Heedless (lookup >>= next) := by
  intro budget
  rw [bind_apply]
  refine (h budget).bind ?_
  rintro ⟨error | a, budget⟩
  · trivial
  · exact h' a budget

theorem heedless_pure (a : α) : Heedless (pure a : Lookup ω α) := fun _ => trivial

theorem heedless_throw (error : RouteError) : Heedless (throw error : Lookup ω α) :=
  fun _ => trivial

theorem heedless_read {view : Client ω → α}
    (h : ∀ client lookups evicted, view (client.adjust lookups evicted) = view client) :
    Heedless (read view) := fun _ => by
  refine Routine.Heedless.bind (heedless_perform fun _ _ _ => ?_) fun _ => trivial
  rw [h]

/-- A lookup may first make a change that commutes with adjustments. -/
theorem heedless_change_then {f : Client ω → Client ω} {next : Lookup ω α}
    (h : ∀ client lookups evicted,
      f (client.adjust lookups evicted) = (f client).adjust lookups evicted)
    (h' : Heedless next) : Heedless (do change f; next) := by
  refine Heedless.bind (fun _ => ?_) fun _ => h'
  refine Routine.Heedless.bind (heedless_perform fun _ _ _ => ?_) fun _ => trivial
  rw [h]

theorem heedless_create (make : Ledger → α × Ledger) : Heedless (create (ω := ω) make) :=
  fun _ => Routine.Heedless.bind (heedless_perform fun _ _ _ => rfl)
    fun _ => trivial

variable [Authority ω]

theorem heedless_ask (call : Call) (attempt : ω → Attempt α × ω) : Heedless (ask call attempt) :=
  fun budget => Routine.Heedless.bind (heedless_perform fun _ _ _ => rfl)
    fun _ => heedless_persist attempt budget

theorem heedless_loadStore (id : StoreId) : Heedless (loadStore (ω := ω) id) := by
  refine Heedless.bind (heedless_read fun _ _ _ => rfl) fun cached => ?_
  cases cached with
  | some store => exact heedless_pure _
  | none =>
    refine heedless_change_then (fun _ _ _ => rfl) ?_
    refine Heedless.bind (heedless_ask _ _) fun descriptor => ?_
    refine Heedless.bind (heedless_create _) fun store => ?_
    split
    · exact heedless_pure _
    · exact heedless_change_then (fun _ _ _ => rfl) (heedless_pure _)

theorem heedless_loadStores : ∀ peers, Heedless (loadStores (ω := ω) peers)
  | [] => heedless_pure _
  | _ :: peers => (heedless_loadStore _).bind fun _ =>
    (heedless_loadStores peers).bind fun _ => heedless_pure _

/-- Caches a region, and returns it with those that it evicts. -/
def insert (region : Region) : Lookup ω (Region × List Region) := do
  let (evicted, regions) ← read (·.cache.regions.insert region)
  change (·.withRegions regions)
  return (region, evicted)

/-- What a fetch does with the answer to its call. -/
def cacheAnswer (answer : RegionDescriptor × Peer) : Lookup ω (Region × List Region) := do
  let stores ← loadStores answer.1.peers
  let region ← create (Region.create answer.1 answer.2 stores)
  if !region.isValid then
    throw (.invalidRegion region.text)
  insert region

theorem fetch_eq (query : RegionQuery) : fetch (ω := ω) query = (do
    change (·.record .regionFetch)
    cacheAnswer (← askRegion query)) := rfl

omit [Authority ω] in
theorem heedless_insert (region : Region) : Heedless (insert (ω := ω) region) :=
  Heedless.bind (heedless_read fun _ _ _ => rfl) fun _ =>
    heedless_change_then (fun _ _ _ => rfl) (heedless_pure _)

theorem heedless_cacheAnswer (answer : RegionDescriptor × Peer) :
    Heedless (cacheAnswer (ω := ω) answer) := by
  refine Heedless.bind (heedless_loadStores _) fun stores => ?_
  refine Heedless.bind (heedless_create _) fun region => ?_
  split
  · exact (heedless_throw _).bind fun _ => heedless_insert region
  · exact heedless_insert region

theorem heedless_fetch (query : RegionQuery) : Heedless (fetch (ω := ω) query) := by
  rw [fetch_eq]
  exact heedless_change_then (fun _ _ _ => rfl)
    (Heedless.bind (heedless_ask _ _) heedless_cacheAnswer)

theorem heedless_settleKey (key : Key) : Heedless (settleKey (ω := ω) key) := by
  refine Heedless.bind (heedless_read fun _ _ _ => rfl) fun found => ?_
  cases found with
  | some region => exact heedless_change_then (fun _ _ _ => rfl) (heedless_pure _)
  | none => exact heedless_change_then (fun _ _ _ => rfl) (heedless_fetch _)

end Lookup
end RegionRouting
