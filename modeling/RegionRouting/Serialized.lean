/-
  Region routing — the JSON forms of the library's types.

  Identifiers are bare numbers, keys are arrays of bytes, enumerated values are
  names, and records list their fields in the order below.
-/
import RegionRouting.Config
import RegionRouting.Invalidation
import RegionRouting.Json.Serial
import RegionRouting.Metrics

namespace RegionRouting

open Json Serial

instance {e : Entity} : Serial (Ident e) where
  toJson i := toJson i.val
  ofJson? json := (ofJson? json).map Ident.mk

instance : Serial Peer where
  toJson peer := .record
    [("id", toJson peer.id), ("store_id", toJson peer.store), ("role", toJson peer.role)]
  ofJson? json := do
    match ← json.fields? ["id", "store_id", "role"] with
    | [id, store, role] => return ⟨← required id, ← required store, ← required role⟩
    | _ => none

instance : Serial Epoch where
  toJson epoch := .record [("conf_ver", toJson epoch.confVer), ("version", toJson epoch.version)]
  ofJson? json := do
    match ← json.fields? ["conf_ver", "version"] with
    | [confVer, version] => return ⟨← required confVer, ← required version⟩
    | _ => none

instance : Serial RegionDescriptor where
  toJson region := .record
    [("id", toJson region.id), ("start_key", toJson region.range.start),
     ("end_key", toJson region.range.stop), ("epoch", toJson region.epoch),
     ("peers", toJson region.peers)]
  ofJson? json := do
    match ← json.fields? ["id", "start_key", "end_key", "epoch", "peers"] with
    | [id, start, stop, epoch, peers] =>
      return ⟨← required id, ⟨← required start, ← required stop⟩, ← required epoch,
        ← required peers⟩
    | _ => none

instance : Serial StoreLabel where
  toJson label := .record [("key", toJson label.key), ("value", toJson label.value)]
  ofJson? json := do
    match ← json.fields? ["key", "value"] with
    | [key, value] => return ⟨← required key, ← required value⟩
    | _ => none

instance : Serial StoreDescriptor where
  toJson store := .record
    [("id", toJson store.id), ("address", toJson store.address), ("labels", toJson store.labels),
     ("state", toJson store.state)]
  ofJson? json := do
    match ← json.fields? ["id", "address", "labels", "state"] with
    | [id, address, labels, state] =>
      return ⟨← required id, ← required address, ← required labels, ← required state⟩
    | _ => none

/-- The ids of an invalidation may be missing. -/
instance : Serial Invalidation where
  toJson notice := .record
    [("region_id", toJson notice.region), ("store_id", toJson notice.store),
     ("invalidate_region", toJson notice.dropsRegion),
     ("invalidate_store", toJson notice.dropsStore), ("cache_type", toJson notice.scope)]
  ofJson? json := do
    match ← json.fields? ["region_id", "store_id", "invalidate_region", "invalidate_store",
      "cache_type"] with
    | [region, store, dropsRegion, dropsStore, scope] =>
      return ⟨← defaulted none region, ← defaulted none store, ← required dropsRegion,
        ← required dropsStore, ← required scope⟩
    | _ => none

instance : Serial BackoffConfig where
  toJson config := .record
    [("max_attempts", toJson config.maxAttempts), ("base_ms", toJson config.baseMs),
     ("max_sleep_ms", toJson config.maxSleepMs), ("total_budget_ms", toJson config.totalBudgetMs)]
  ofJson? json := do
    match ← json.fields? ["max_attempts", "base_ms", "max_sleep_ms", "total_budget_ms"] with
    | [attempts, base, sleep, budget] =>
      return ⟨← required attempts, ← required base, ← required sleep, ← required budget⟩
    | _ => none

/-- Each field of a configuration has its default where it is missing. -/
instance : Serial RoutingConfig where
  toJson config := .record
    [("health_check_interval_secs", toJson config.healthCheckIntervalSecs),
     ("enable_forwarding", toJson config.enableForwarding),
     ("default_selector", toJson config.defaultSelector), ("backoff", toJson config.backoff)]
  ofJson? json := do
    let base : RoutingConfig := {}
    match ← json.someFields? ["health_check_interval_secs", "enable_forwarding",
      "default_selector", "backoff"] with
    | [interval, forwarding, selector, backoff] =>
      return ⟨← defaulted base.healthCheckIntervalSecs interval,
        ← defaulted base.enableForwarding forwarding, ← defaulted base.defaultSelector selector,
        ← defaulted base.backoff backoff⟩
    | _ => none

/-- The counters as a JSON text. -/
def Metrics.json (metrics : Metrics) : String :=
  (Value.record (metrics.fields.map fun (name, count) => (name, toJson count))).text

end RegionRouting
