/-
  Region routing — health checkers.

  A `Checker` knows where in a client the stores wait that it is to check.
  `Checker.own` is the checker that the cache hands forwarded stores to; one
  that stands apart from the cache has its queue elsewhere.

  * `Checker.begin` takes every waiting store off the queue, for a round; in which
    order they come is left open (`DrainOrder`);
  * `Checker.finish` puts back those that the round has kept;
  * `Checker.checkOnce` is a whole round.
-/
import RegionRouting.Health.Round

namespace RegionRouting

/-- Replaces the queue of the checker that is the scheduler, if there is one. -/
def Client.withQueue {ω : Type} (client : Client ω) (queue : WatchQueue) : Client ω :=
  match client.scheduler with
  | .watching _ => { client with scheduler := .watching queue }
  | _ => client

/-- The order in which a queue gives out its stores when it is drained. -/
structure DrainOrder where
  arrange : List Store → List Store
  perm (stores : List Store) : (arrange stores).Perm stores

/-- By ascending id, as the queue lists its values. -/
def DrainOrder.ascending : DrainOrder where
  arrange stores := stores
  perm := .refl

/-- A checker: its queue, the order in which it is drained, and what the rest of
    the program does before each step of its rounds. -/
structure Checker (ω : Type) where
  queue : Client ω → WatchQueue
  setQueue : WatchQueue → Client ω → Client ω
  order : DrainOrder := .ascending
  others : Round → Operation ω Unit := fun _ => .done ()

namespace Checker

variable {ω : Type}

/-- The checker that is the scheduler of the cache. -/
def own : Checker ω where
  queue client := client.scheduler.queue
  setQueue queue client := client.withQueue queue

/-- Takes a store over, in the place of an older value of it. -/
def schedule (checker : Checker ω) (store : Store) (client : Client ω) : Client ω :=
  checker.setQueue ((checker.queue client).schedule store) client

/-- Empties the queue, for a round of the stores that were drained from it. -/
def beginWith (checker : Checker ω) (drained : List Store) (client : Client ω) :
    Round × Client ω :=
  ({ waiting := drained }, checker.setQueue {} client)

/-- Takes every waiting store off the queue. -/
def begin (checker : Checker ω) (client : Client ω) : Round × Client ω :=
  checker.beginWith (checker.order.arrange (checker.queue client).values) client

/-- Puts the kept stores back. -/
def finish (checker : Checker ω) (round : Round) (client : Client ω) : Client ω :=
  checker.setQueue ((checker.queue client).restore round.kept) client

/-- Checks every waiting store once. -/
def checkOnce [Authority ω] [Prober ω] (checker : Checker ω) : Operation ω Tally := do
  let round ← (← Routine.perform checker.begin).routine checker.others
  Routine.change (checker.finish round)
  return round.tally

end Checker
end RegionRouting
