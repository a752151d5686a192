/-
  Region routing — the metadata authority.

  A router learns of regions and stores from a metadata authority.  The state
  of the world outside the router, the authority included, is a type `ω`; the
  class below says what the router may do to it.

  A call is placed, is heard after some time, and is then made of attempts.
  An attempt answers, or meets a fault that may go away; then the caller's
  retry budget pays for a sleep and for one more attempt, or the call fails
  (`Backoffer.persist`).
-/
import RegionRouting.Backoff
import RegionRouting.Routine

namespace RegionRouting

/-- Which region is asked for: the one that owns a key, or the one of an id. -/
inductive RegionQuery where
  | byKey (key : Key)
  | byId (id : RegionId)
  deriving DecidableEq

/-- A call to the authority. -/
inductive Call where
  | region (query : RegionQuery)
  | store (id : StoreId)
  deriving DecidableEq

/-- What one attempt of a call comes to: its result, or a fault that the
    retry budget may pay for. -/
inductive Attempt (α : Type) where
  | answer (result : Except RouteError α)
  | fault (error : AuthorityError)

/-- The source of truth about regions, with their leaders, and about stores. -/
class Authority (ω : Type) where
  /-- places a call; it takes so many milliseconds until it is heard -/
  place (call : Call) (world : ω) : Nat × ω
  region (query : RegionQuery) (world : ω) : Attempt (RegionDescriptor × Peer) × ω
  store (id : StoreId) (world : ω) : Attempt StoreDescriptor × ω

/-- Makes one attempt after another, sleeping in between, until one answers or
    the budget is spent. -/
def Backoffer.persist {σ α : Type} (attempt : σ → Attempt α × σ) (budget : Backoffer) :
    Routine σ (Except RouteError α × Backoffer) :=
  .act (fun state => (attempt state).2) fun old =>
    match (attempt old).1 with
    | .answer result => .done (result, budget)
    | .fault error =>
      match _ : budget.backoff error with
      | .error failure => .done (.error failure, budget)
      | .ok (sleep, budget) => .sleep sleep.toNat (budget.persist attempt)
  termination_by budget.retries
  decreasing_by exact Backoffer.retries_lt_of_backoff ‹_›

end RegionRouting
