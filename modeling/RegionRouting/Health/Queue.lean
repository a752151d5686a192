/-
  Region routing — stores that wait for a health check.

  A store that is reached through a proxy is handed to a scheduler, so that it
  is probed until it answers on its own address again.  The checker's queue
  holds one value for each store id, the one handed over last.

  * `WatchQueue.schedule` puts a value in the place of an older one;
  * `WatchQueue.restore` puts values back that were taken out for a round, and
    leaves alone what was scheduled since.
-/
import RegionRouting.Store

namespace RegionRouting

/-- The store values that wait for a probe, one for each id. -/
structure WatchQueue where
  pending : Std.ExtTreeMap StoreId Store := ∅

namespace WatchQueue

def size (queue : WatchQueue) : Nat :=
  queue.pending.size

/-- The waiting values, by ascending id. -/
def values (queue : WatchQueue) : List Store :=
  queue.pending.toList.map (·.2)

def schedule (queue : WatchQueue) (store : Store) : WatchQueue :=
  ⟨queue.pending.insert store.id store⟩

/-- Puts values back, except where a newer one of the same id waits. -/
def restore (queue : WatchQueue) (kept : List Store) : WatchQueue :=
  kept.foldl (fun queue store => ⟨queue.pending.insertIfNew store.id store⟩) queue

end WatchQueue

/-- Where forwarded stores are handed for a health check: nowhere, to a record
    of what was handed over, or to a checker. -/
inductive Scheduler where
  | unwatched
  | recording (handed : List Store)
  | watching (queue : WatchQueue)

namespace Scheduler

def schedule (scheduler : Scheduler) (store : Store) : Scheduler :=
  match scheduler with
  | unwatched => unwatched
  | recording handed => recording (handed ++ [store])
  | watching queue => watching (queue.schedule store)

/-- The queue of the checker, if there is one. -/
def queue : Scheduler → WatchQueue
  | watching queue => queue
  | _ => {}

end Scheduler
end RegionRouting
