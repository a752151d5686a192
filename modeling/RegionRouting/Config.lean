/-
  Region routing — the configuration of a router.
-/
import RegionRouting.Backoff
import RegionRouting.Replica

namespace RegionRouting

/-- How a router works: the period of its health checks in seconds, whether it
    forwards through proxies at all, which replica it prefers, and the retry
    budget of each of its operations. -/
structure RoutingConfig where
  healthCheckIntervalSecs : UInt64 := 10
  enableForwarding : Bool := false
  defaultSelector : ReplicaSelector := .leader
  backoff : BackoffConfig := {}
  deriving DecidableEq

end RegionRouting
