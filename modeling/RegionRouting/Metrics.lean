/-
  Region routing — counters of the cache.

  Each counter is a 64-bit word that wraps.  `Metrics.record` is the one way
  to change them: an `Update` names what happened, and adds to one counter (a
  miss latency adds to the total, and raises the maximum).

  * `Metrics.fields` lists the counters under their public names, in order.
-/

namespace RegionRouting

/-- A span of time: whole seconds, and nanoseconds beyond them. -/
structure Duration where
  secs : UInt64
  nanos : UInt32

/-- The whole microseconds in a span, to 64 bits. -/
def Duration.micros (d : Duration) : UInt64 :=
  .ofNat ((d.secs.toNat * 1000000000 + d.nanos.toNat) / 1000)

/-- Something that the cache counts. -/
inductive Update where
  | lookup
  | hit
  | miss
  | regionFetch
  | storeFetch
  | regionsInvalidated (n : UInt64)
  | storeInvalidated
  /-- an optimistic update, applied or found stale -/
  | swap (applied : Bool)
  /-- how long a miss took to resolve -/
  | missLatency (elapsed : Duration)

/-- The counters. -/
structure Metrics where
  regionLookups : UInt64 := 0
  regionHits : UInt64 := 0
  regionMisses : UInt64 := 0
  authorityRegionFetches : UInt64 := 0
  authorityStoreFetches : UInt64 := 0
  regionsInvalidated : UInt64 := 0
  storesInvalidated : UInt64 := 0
  casApplied : UInt64 := 0
  casRejected : UInt64 := 0
  missLatencyTotalUs : UInt64 := 0
  missLatencyMaxUs : UInt64 := 0
  deriving DecidableEq

namespace Metrics

/-- Counts one update. -/
def record (m : Metrics) : Update → Metrics
  | .lookup => { m with regionLookups := m.regionLookups + 1 }
  | .hit => { m with regionHits := m.regionHits + 1 }
  | .miss => { m with regionMisses := m.regionMisses + 1 }
  | .regionFetch => { m with authorityRegionFetches := m.authorityRegionFetches + 1 }
  | .storeFetch => { m with authorityStoreFetches := m.authorityStoreFetches + 1 }
  | .regionsInvalidated n => { m with regionsInvalidated := m.regionsInvalidated + n }
  | .storeInvalidated => { m with storesInvalidated := m.storesInvalidated + 1 }
  | .swap true => { m with casApplied := m.casApplied + 1 }
  | .swap false => { m with casRejected := m.casRejected + 1 }
  | .missLatency elapsed =>
    { m with
      missLatencyTotalUs := m.missLatencyTotalUs + elapsed.micros
      missLatencyMaxUs := max m.missLatencyMaxUs elapsed.micros }

/-- The counters under their public names, in order. -/
def fields (m : Metrics) : List (String × UInt64) :=
  [("region_lookups", m.regionLookups),
   ("region_hits", m.regionHits),
   ("region_misses", m.regionMisses),
   ("authority_region_fetches", m.authorityRegionFetches),
   ("authority_store_fetches", m.authorityStoreFetches),
   ("regions_invalidated", m.regionsInvalidated),
   ("stores_invalidated", m.storesInvalidated),
   ("cas_applied", m.casApplied),
   ("cas_rejected", m.casRejected),
   ("miss_latency_total_us", m.missLatencyTotalUs),
   ("miss_latency_max_us", m.missLatencyMaxUs)]

/-- The counters on one line, for a log. -/
def text (m : Metrics) : String :=
  let counters := m.fields.map fun (name, count) => s!"{name}: {count}"
  "CacheMetrics \x7b snapshot: CacheMetricsSnapshot \x7b " ++ ", ".intercalate counters ++
    " \x7d \x7d"

end Metrics
end RegionRouting
