/-
  Region routing — routers.

  A `Router` is a client with its configuration and, if it forwards through
  proxies, with the task that checks the health of its stores.  Its lookups
  are routines on the client; each gets a retry budget of its own.
-/
import RegionRouting.Config
import RegionRouting.Health.Task
import RegionRouting.Lookup

namespace RegionRouting

/-- A client under a configuration, perhaps with a running health check. -/
structure Router (ω : Type) where
  config : RoutingConfig
  client : Client ω
  task : Option HealthTask := none

/-- Performs a lookup with a fresh retry budget. -/
def RoutingConfig.request {ω α : Type} (config : RoutingConfig) (lookup : Lookup ω α) :
    Operation ω (Except RouteError α) :=
  Prod.fst <$> lookup { config := config.backoff }

namespace Router

variable {ω : Type}

/-! ## Start and end -/

/-- A router without health checks. -/
def start (config : RoutingConfig) (subscribed : Bool) (world : ω) : Router ω :=
  { config, client := { world, subscribed } }

/-- A router that forwards through proxies, if the configuration allows it, and
    then checks the health of forwarded stores from time to time. -/
def startForwarding (config : RoutingConfig) (subscribed : Bool) (now : Nat) (world : ω) :
    Router ω :=
  if config.enableForwarding then
    { config
      client := { world, subscribed, scheduler := .watching {} }
      task := HealthTask.start? now (config.healthCheckIntervalSecs.toNat * 1000) }
  else
    start config subscribed world

/-- Ends the health checks; a round under way is given up. -/
def close (router : Router ω) : Router ω :=
  { router with task := none }

/-! ## Lookups -/

variable [Authority ω]

/-- The region that owns a key. -/
def regionByKey (router : Router ω) (key : Key) : Operation ω (Except RouteError Region) :=
  router.config.request (.regionByKey key)

/-- The region of an id. -/
def regionById (router : Router ω) (id : RegionId) : Operation ω (Except RouteError Region) :=
  router.config.request (.regionById id)

/-- The store of an id. -/
def storeById (router : Router ω) (id : StoreId) : Operation ω (Except RouteError Store) :=
  router.config.request (.storeById id)

/-- The region that owns a key, and the store that serves a kind of request on
    it under the configured selector. -/
def resolve (router : Router ω) (key : Key) (kind : StoreKind) :
    Operation ω (Except RouteError (Region × Store)) :=
  router.config.request (.route key kind router.config.defaultSelector)

end Router
end RegionRouting
