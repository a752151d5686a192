/-
  Region routing — notices of invalidation.

  A subscriber of the cache is told of every entry that is dropped.  A notice
  names the region and the store involved, if any, and says which of the two
  was dropped.
-/
import RegionRouting.Ident
import RegionRouting.Named

namespace RegionRouting

/-- The part of the cache that an invalidation touched. -/
inductive Scope where
  /-- a region, because of the store that led it -/
  | regionStore
  | region
  | store
  /-- every region -/
  | all
  deriving DecidableEq

instance : Named Scope where
  values := [.regionStore, .region, .store, .all]
  name
    | .regionStore => "RegionStore"
    | .region => "Region"
    | .store => "Store"
    | .all => "All"

/-- Tells a subscriber what was dropped. -/
structure Invalidation where
  region : Option RegionId := none
  store : Option StoreId := none
  dropsRegion : Bool
  dropsStore : Bool
  scope : Scope
  deriving DecidableEq

namespace Invalidation

/-- A region was dropped on its own. -/
def ofRegion (id : RegionId) : Invalidation :=
  { region := some id, dropsRegion := true, dropsStore := false, scope := .region }

/-- A store was dropped. -/
def ofStore (id : StoreId) : Invalidation :=
  { store := some id, dropsRegion := false, dropsStore := true, scope := .store }

/-- A region was dropped because of the store that led it. -/
def ofLedRegion (id : RegionId) (leader : StoreId) : Invalidation :=
  { region := some id, store := some leader, dropsRegion := true, dropsStore := false,
    scope := .regionStore }

/-- Every region was dropped at once. -/
def ofAll : Invalidation :=
  { dropsRegion := true, dropsStore := false, scope := .all }

end Invalidation
end RegionRouting
