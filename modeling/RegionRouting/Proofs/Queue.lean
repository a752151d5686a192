/-
  Region routing — which stores wait for a health check.

  * `WatchQueue.getElem?_schedule` and `WatchQueue.getElem?_restore` say what
    waits under an id: the value scheduled last, or else the first one that was
    put back;
  * so a queue gains no values but those that are scheduled or put back
    (`WatchQueue.mem_schedule`, `WatchQueue.mem_restore`), and neither does a
    scheduler (`Scheduler.mem_waiting_schedule`);
  * `WatchQueue.nodup_values`: one value waits for each id.
-/
import RegionRouting.Health.Queue
import RegionRouting.Proofs.Member

namespace RegionRouting

namespace WatchQueue

variable {queue : WatchQueue} {store other : Store}

/-! ## What waits under an id -/

theorem getElem?_schedule (queue : WatchQueue) (store : Store) (id : StoreId) :
    (queue.schedule store).pending[id]? =
      if id = store.id then some store else queue.pending[id]? := by
  simp only [schedule, Std.ExtTreeMap.getElem?_insert, Std.LawfulEqCmp.compare_eq_iff_eq,
    eq_comm (a := store.id)]

/-- What waits stays; where nothing does, the first of the values is put back. -/
theorem getElem?_restore (kept : List Store) (queue : WatchQueue) (id : StoreId) :
    (queue.restore kept).pending[id]? = queue.pending[id]?.or (kept.find? (·.id = id)) := by
  induction kept generalizing queue with
  | nil => simp [restore]
  | cons store kept ih =>
    rw [restore, List.foldl_cons, ← restore, ih, Std.ExtTreeMap.getElem?_insertIfNew,
      List.find?_cons]
    by_cases here : store.id = id
    · subst here
      cases waiting : queue.pending[store.id]? <;>
        simp [Std.ExtTreeMap.mem_iff_isSome_getElem?, waiting]
    · simp [here]

/-! ## The values that wait -/

theorem mem_values : store ∈ queue.values ↔ ∃ id : StoreId, queue.pending[id]? = some store := by
  simp only [values, List.mem_map, Prod.exists, Std.ExtTreeMap.mem_toList_iff_getElem?_eq_some,
    exists_eq_right]

theorem mem_schedule (h : other ∈ (queue.schedule store).values) :
    other = store ∨ other ∈ queue.values := by
  obtain ⟨id, h⟩ := mem_values.1 h
  rw [getElem?_schedule] at h
  split at h
  · exact .inl (Option.some.inj h).symm
  · exact .inr (mem_values.2 ⟨id, h⟩)

theorem mem_restore {kept : List Store} (h : other ∈ (queue.restore kept).values) :
    other ∈ kept ∨ other ∈ queue.values := by
  obtain ⟨id, h⟩ := mem_values.1 h
  rw [getElem?_restore, Option.or_eq_some_iff] at h
  rcases h with before | ⟨-, back⟩
  · exact .inr (mem_values.2 ⟨id, before⟩)
  · exact .inl (List.mem_of_find?_eq_some back)

/-- In a queue by own ids, one value waits for each id. -/
theorem nodup_values (own : ∀ {id : StoreId} {store : Store}, queue.pending[id]? = some store →
    store.id = id) : (queue.values.map Store.id).Nodup :=
  nodup_map_values queue.pending Store.id own

end WatchQueue

namespace Scheduler

variable {scheduler : Scheduler} {store other : Store}

/-- The store values that wait with a scheduler. -/
def waiting : Scheduler → List Store
  | unwatched => []
  | recording handed => handed
  | watching queue => queue.values

theorem waiting_unwatched : unwatched.waiting = [] := rfl

theorem waiting_watching : (watching {}).waiting = [] := rfl

theorem mem_waiting_schedule (h : other ∈ (scheduler.schedule store).waiting) :
    other = store ∨ other ∈ scheduler.waiting := by
  cases scheduler with
  | unwatched => exact .inr h
  | recording handed =>
    rcases List.mem_append.1 h with before | last
    · exact .inr before
    · exact .inl (List.mem_singleton.1 last)
  | watching queue => exact WatchQueue.mem_schedule h

/-- The queue of a checker is empty where there is no checker. -/
theorem mem_waiting_of_queue (h : store ∈ scheduler.queue.values) : store ∈ scheduler.waiting := by
  cases scheduler with
  | watching queue => exact h
  | unwatched | recording =>
    obtain ⟨id, h⟩ := WatchQueue.mem_values.1 h
    simp [queue] at h

end Scheduler
end RegionRouting
