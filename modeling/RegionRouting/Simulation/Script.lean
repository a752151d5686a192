/-
  Region routing — a scripted world.

  A `Script` is a world made to order: tables of regions and stores for the
  authority to answer from, faults to meet before it does, answers that it is
  forced to give, the stores that answer a probe, and what others do meanwhile.
-/
import RegionRouting.Health.Round

namespace RegionRouting

/-- What happens to one attempt of a call before the tables are consulted. -/
inductive Fault where
  /-- the attempt fails, and may be retried -/
  | retry (error : AuthorityError)
  /-- the call fails at once -/
  | raise (error : RouteError)

/-- The attempt that a fault makes of it. -/
def Fault.attempt {α : Type} : Fault → Attempt α
  | retry error => .fault error
  | raise error => .answer (.error error)

/-- What someone else does while a probe of a store is under way. -/
inductive Intervention where
  /-- hands a store to the session's checker -/
  | schedule (store : Store)
  /-- drops a store from the cache -/
  | invalidate (id : StoreId)

/-- A region of the script with its leader. -/
abbrev Placement := RegionDescriptor × Peer

/-- A world made to order.  `stores` is by the id asked for, whatever id the
    answer has; `delay` is the time until a region call is heard.
    Interventions come before the next answer to a probe of a store, once.
    `apart` is the queue of a checker that is not the scheduler of the cache. -/
structure Script where
  delay : Nat := 0
  regions : List Placement := []
  stores : Std.ExtTreeMap StoreId StoreDescriptor := ∅
  forced : List Placement := []
  regionFaults : List Fault := []
  storeFaults : Std.ExtTreeMap StoreId (List Fault) := ∅
  answering : Std.ExtTreeSet StoreId := ∅
  interventions : Std.ExtTreeMap StoreId Intervention := ∅
  apart : WatchQueue := {}

namespace Script

/-! ## Writing the script -/

/-- Adds a region at the end, in the place of one with the same id. -/
def setRegion (script : Script) (region : Placement) : Script :=
  { script with regions := script.regions.filter (·.1.id != region.1.id) ++ [region] }

def removeRegion (script : Script) (id : RegionId) : Script :=
  { script with regions := script.regions.filter (·.1.id != id) }

def setLeader (script : Script) (id : RegionId) (leader : Peer) : Script :=
  { script with
    regions := script.regions.map fun region =>
      if region.1.id = id then (region.1, leader) else region }

/-- The next region call that meets no fault will answer with this region. -/
def force (script : Script) (region : Placement) : Script :=
  { script with forced := script.forced ++ [region] }

def setStore (script : Script) (asked : StoreId) (store : StoreDescriptor) : Script :=
  { script with stores := script.stores.insert asked store }

def removeStore (script : Script) (id : StoreId) : Script :=
  { script with stores := script.stores.erase id }

/-- Makes region calls meet faults, after those that already wait. -/
def faultRegions (script : Script) (faults : List Fault) : Script :=
  { script with regionFaults := script.regionFaults ++ faults }

/-- Makes calls about a store meet faults, after those that already wait. -/
def faultStore (script : Script) (id : StoreId) (faults : List Fault) : Script :=
  let waiting := script.storeFaults.getD id []
  { script with storeFaults := script.storeFaults.insert id (waiting ++ faults) }

/-- Says whether a store answers probes. -/
def setAnswering (script : Script) (id : StoreId) (up : Bool) : Script :=
  { script with
    answering := if up then script.answering.insert id else script.answering.erase id }

/-- Has someone intervene in the next probe of a store. -/
def setIntervention (script : Script) (probed : StoreId) (act : Intervention) : Script :=
  { script with interventions := script.interventions.insert probed act }

/-! ## Playing it -/

/-- The region that a query finds first. -/
def lookup (script : Script) (query : RegionQuery) : Except RouteError Placement :=
  let found := script.regions.find? fun (region, _) =>
    match query with
    | .byKey key => region.range.contains key
    | .byId id => region.id = id
  match found with
  | some region => .ok region
  | none => .error (.authority .regionNotFound)

/-- One attempt of a region call. -/
def region (query : RegionQuery) (script : Script) : Attempt Placement × Script :=
  match script.regionFaults with
  | fault :: regionFaults => (fault.attempt, { script with regionFaults })
  | [] =>
    match script.forced with
    | region :: forced => (.answer (.ok region), { script with forced })
    | [] => (.answer (script.lookup query), script)

/-- One attempt of a call about a store. -/
def store (id : StoreId) (script : Script) : Attempt StoreDescriptor × Script :=
  match script.storeFaults.getD id [] with
  | fault :: waiting =>
    (fault.attempt, { script with storeFaults := script.storeFaults.insert id waiting })
  | [] =>
    match script.stores[id]? with
    | some store => (.answer (.ok store), script)
    | none => (.answer (.error (.authority (.storeNotFound id))), script)

/-- The time until a call is heard. -/
def delayOf (script : Script) : Call → Nat
  | .region _ => script.delay
  | .store _ => 0

/-- Takes the intervention in a probe of a store, if one is to come. -/
def intervention (id : StoreId) (script : Script) : Option Intervention × Script :=
  (script.interventions[id]?, { script with interventions := script.interventions.erase id })

instance : Authority Script where
  place call script := (script.delayOf call, script)
  region := region
  store := store

instance : Prober Script where
  send _ script := script
  answers store script := (script.answering.contains store.id, script)

end Script
end RegionRouting
