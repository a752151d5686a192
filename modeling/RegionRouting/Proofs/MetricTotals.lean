/-
  Region routing — what the counters add up to.

  Each update adds to one counter, in words that wrap; the latency of a miss also raises
  the greatest latency so far.  Neither depends on the order of the updates.

  * `Metrics.record_right_comm`: two updates may be counted in either order;
  * `Update.adds` is what an update adds to a counter, in exact numbers, and
    `Metrics.value_record` that it does;
  * `Metrics.totals`: any updates in any order lead to the same counters, which are the
    exact sums up to a wrap, and the greatest latency.
-/
import Mathlib.Data.UInt
import RegionRouting.Metrics

namespace RegionRouting

/-- The whole microseconds in a span, of any number. -/
def Duration.wholeMicros (d : Duration) : Nat :=
  (d.secs.toNat * 1000000000 + d.nanos.toNat) / 1000

theorem Duration.micros_eq (d : Duration) : d.micros = .ofNat d.wholeMicros := by
  rw [micros, wholeMicros]

/-! ## Contributions -/

/-- The counters that add up. -/
inductive Counter where
  | regionLookups
  | regionHits
  | regionMisses
  | authorityRegionFetches
  | authorityStoreFetches
  | regionsInvalidated
  | storesInvalidated
  | casApplied
  | casRejected
  | missLatencyTotalUs

def Metrics.value (m : Metrics) : Counter → UInt64
  | .regionLookups => m.regionLookups
  | .regionHits => m.regionHits
  | .regionMisses => m.regionMisses
  | .authorityRegionFetches => m.authorityRegionFetches
  | .authorityStoreFetches => m.authorityStoreFetches
  | .regionsInvalidated => m.regionsInvalidated
  | .storesInvalidated => m.storesInvalidated
  | .casApplied => m.casApplied
  | .casRejected => m.casRejected
  | .missLatencyTotalUs => m.missLatencyTotalUs

namespace Update

/-- What an update adds to a counter: one to its own, or the number of regions, or the
    time that it reports. -/
def adds : Update → Counter → Nat
  | lookup, .regionLookups | hit, .regionHits | miss, .regionMisses
  | regionFetch, .authorityRegionFetches | storeFetch, .authorityStoreFetches
  | storeInvalidated, .storesInvalidated | swap true, .casApplied | swap false, .casRejected => 1
  | regionsInvalidated n, .regionsInvalidated => n.toNat
  | missLatency elapsed, .missLatencyTotalUs => elapsed.wholeMicros
  | _, _ => 0

/-- The latency that an update reports. -/
def latency? : Update → Option Duration
  | missLatency elapsed => some elapsed
  | _ => none

end Update

namespace Metrics

/-- An update adds to each counter what it has for it. -/
theorem value_record (m : Metrics) (update : Update) (counter : Counter) :
    (m.record update).value counter = m.value counter + .ofNat (update.adds counter) := by
  cases update with
  | swap applied => cases applied <;> cases counter <;> simp [record, value, Update.adds]
  | missLatency elapsed =>
    cases counter <;> simp [record, value, Update.adds, Duration.micros_eq]
  | _ => cases counter <;> simp [record, value, Update.adds]

/-- An update raises the greatest latency to the one that it reports. -/
theorem missLatencyMaxUs_record (m : Metrics) (update : Update) :
    (m.record update).missLatencyMaxUs =
      update.latency?.elim m.missLatencyMaxUs (max m.missLatencyMaxUs ·.micros) := by
  cases update with
  | swap applied => cases applied <;> rfl
  | _ => rfl

/-- Updates add to a counter the exact sum of what each adds. -/
theorem value_foldl_record (updates : List Update) (m : Metrics) (counter : Counter) :
    (updates.foldl record m).value counter =
      m.value counter + .ofNat (updates.map (·.adds counter)).sum := by
  induction updates generalizing m with
  | nil => simp
  | cons update updates ih =>
    rw [List.foldl_cons, ih, value_record, List.map_cons, List.sum_cons, UInt64.ofNat_add,
      UInt64.add_assoc]

theorem missLatencyMaxUs_foldl_record (updates : List Update) (m : Metrics) :
    (updates.foldl record m).missLatencyMaxUs.toNat =
      ((updates.filterMap Update.latency?).map (·.wholeMicros % 2 ^ 64)).foldl max
        m.missLatencyMaxUs.toNat := by
  induction updates generalizing m with
  | nil => rfl
  | cons update updates ih =>
    rw [List.foldl_cons, ih, missLatencyMaxUs_record, List.filterMap_cons]
    cases update.latency? with
    | none => rfl
    | some elapsed =>
      rw [Option.elim_some, UInt64.toNat_max, Duration.micros_eq, UInt64.toNat_ofNat']
      rfl

/-! ## Order -/

/-- The counts of two taken together. -/
def combine (m d : Metrics) : Metrics where
  regionLookups := m.regionLookups + d.regionLookups
  regionHits := m.regionHits + d.regionHits
  regionMisses := m.regionMisses + d.regionMisses
  authorityRegionFetches := m.authorityRegionFetches + d.authorityRegionFetches
  authorityStoreFetches := m.authorityStoreFetches + d.authorityStoreFetches
  regionsInvalidated := m.regionsInvalidated + d.regionsInvalidated
  storesInvalidated := m.storesInvalidated + d.storesInvalidated
  casApplied := m.casApplied + d.casApplied
  casRejected := m.casRejected + d.casRejected
  missLatencyTotalUs := m.missLatencyTotalUs + d.missLatencyTotalUs
  missLatencyMaxUs := max m.missLatencyMaxUs d.missLatencyMaxUs

theorem combine_right_comm (m d e : Metrics) :
    (m.combine d).combine e = (m.combine e).combine d := by
  have sums (a b c : UInt64) : a + b + c = a + c + b := by ac_rfl
  have greatest (a b c : UInt64) : max (max a b) c = max (max a c) b := by
    rw [← UInt64.toNat_inj]
    simp only [UInt64.toNat_max]
    omega
  simp only [combine, mk.injEq]
  exact ⟨sums .., sums .., sums .., sums .., sums .., sums .., sums .., sums .., sums .., sums ..,
    greatest ..⟩

/-- To count an update is to take its own counts together with those so far. -/
theorem record_eq_combine (m : Metrics) (update : Update) :
    m.record update = m.combine (({} : Metrics).record update) := by
  have least (n : UInt64) : max n 0 = n ∧ max 0 n = n := by
    simp only [← UInt64.toNat_inj, UInt64.toNat_max, UInt64.toNat_zero]
    omega
  cases update with
  | swap applied => cases applied <;> simp [record, combine, least]
  | _ => simp [record, combine, least]

/-- **Counts commute.** -/
theorem record_right_comm (m : Metrics) (update other : Update) :
    (m.record update).record other = (m.record other).record update := by
  rw [record_eq_combine, record_eq_combine m, combine_right_comm, ← record_eq_combine,
    ← record_eq_combine m]

theorem foldl_record_perm {updates permuted : List Update} (order : permuted.Perm updates)
    (m : Metrics) : permuted.foldl record m = updates.foldl record m :=
  order.foldl_eq' (fun update _ other _ m => record_right_comm m update other) m

/-! ## Totals -/

/-- **Totals.** Updates lead to the same counters in whatever order they are counted: each
    is the exact sum of what they add to it, up to a wrap at `2 ^ 64`, and the greatest
    latency is that of the microseconds that they report, each cut to 64 bits. -/
theorem totals (updates : List Update) :
    let counted := updates.foldl record {}
    (∀ permuted : List Update, permuted.Perm updates → permuted.foldl record {} = counted) ∧
    (∀ counter, (counted.value counter).toNat = (updates.map (·.adds counter)).sum % 2 ^ 64) ∧
    counted.missLatencyMaxUs.toNat =
      ((updates.filterMap Update.latency?).map (·.wholeMicros % 2 ^ 64)).foldl max 0 := by
  refine ⟨fun permuted order => foldl_record_perm order {}, fun counter => ?_,
    missLatencyMaxUs_foldl_record updates {}⟩
  have zero : ({} : Metrics).value counter = 0 := by cases counter <;> rfl
  rw [value_foldl_record, zero, UInt64.zero_add, UInt64.toNat_ofNat']

/-- A sum past the last number goes on from zero. -/
example :
    let updates : List Update := [.regionsInvalidated 18446744073709551615, .regionsInvalidated 2]
    (updates.foldl record {}).regionsInvalidated = 1 := by decide

end Metrics
end RegionRouting
