/-
  Region routing — errors.

  * `AuthorityError`: why the metadata authority gave no answer.  An error is
    retryable if asking again may help: a definite "not found" is not.
  * `RouteError`: why a key was not routed.
-/
import RegionRouting.Topology

namespace RegionRouting

/-- Why the metadata authority gave no answer. -/
inductive AuthorityError where
  | unavailable (reason : String)
  | timeout (ms : UInt64)
  | regionNotFound
  | storeNotFound (id : StoreId)
  | internal (reason : String)
  deriving DecidableEq

namespace AuthorityError

def message : AuthorityError → String
  | unavailable reason => s!"metadata authority unavailable: {reason}"
  | timeout ms => s!"metadata authority request timed out after {ms}ms"
  | regionNotFound => "metadata authority has no region for the requested key or id"
  | storeNotFound id => s!"metadata authority has no store {id.text}"
  | internal reason => s!"metadata authority internal error: {reason}"

/-- May the same question be answered if it is asked again? -/
def isRetryable : AuthorityError → Bool
  | unavailable _ | timeout _ | internal _ => true
  | regionNotFound | storeNotFound _ => false

end AuthorityError

/-- Why a request was not routed. -/
inductive RouteError where
  /-- no region owns the key, given as people read it -/
  | regionNotFound (key : String) (kind : StoreKind)
  /-- the authority reported a region that cannot be cached -/
  | invalidRegion (region : String)
  /-- the same, for a key that was to be routed -/
  | invalidRegionForKey (key : String) (kind : StoreKind) (region : String)
  | storeNotFound (id : StoreId)
  /-- no peer of the region is on a store of the kind -/
  | noStoreForKind (region : RegionId) (kind : StoreKind)
  /-- the retry budget is spent -/
  | backoffExhausted (attempts : UInt32) (last : AuthorityError)
  /-- the authority failed in a way that no retry helps -/
  | authority (error : AuthorityError)
  deriving DecidableEq

def RouteError.message : RouteError → String
  | regionNotFound key kind => s!"region not exist for key: {key} (store kind {kind.text})"
  | invalidRegion region => s!"invalid region: {region}"
  | invalidRegionForKey key kind region =>
    s!"invalid region for key: {key} (store kind {kind.text}): {region}"
  | storeNotFound id => s!"store {id.text} not found"
  | noStoreForKind region kind =>
    s!"cannot find valid store on {kind.text} for region {region.text}"
  | backoffExhausted attempts last =>
    s!"backoff budget exhausted after {attempts} attempts: {last.message}"
  | authority error => error.message

end RegionRouting
