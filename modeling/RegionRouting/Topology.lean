/-
  Region routing — what the metadata authority says of a cluster.

  The keyspace is cut into regions.  A region is replicated by peers, each on
  one store; a store is a node of the cluster.  The descriptors below are
  plain records of what the authority reported, valid or not.

  * `Peer`, `Epoch` and `RegionDescriptor` describe a region;
  * `StoreLabel`, `StoreState` and `StoreDescriptor` describe a store;
  * `StoreKind` is the kind of store a request is meant for: row-oriented
    stores, or the columnar ones that carry the engine label.
-/
import RegionRouting.Ident
import RegionRouting.Key
import RegionRouting.Named

namespace RegionRouting

/-! ## Regions -/

/-- Whether a peer votes in its region's replication group. -/
inductive PeerRole where
  | voter
  | learner
  deriving DecidableEq

instance : Named PeerRole where
  values := [.voter, .learner]
  name
    | .voter => "Voter"
    | .learner => "Learner"

/-- A replica of a region on a store. -/
structure Peer where
  id : PeerId
  store : StoreId
  role : PeerRole
  deriving DecidableEq

namespace Peer

def isLearner (peer : Peer) : Bool :=
  peer.role == .learner

def text (peer : Peer) : String :=
  s!"peer {peer.id.text} on store {peer.store.text}"

end Peer

/-- Versions of a region: the first counts changes of its membership, the
    second splits and merges. -/
structure Epoch where
  confVer : UInt64 := 0
  version : UInt64 := 0
  deriving DecidableEq

def Epoch.text (epoch : Epoch) : String :=
  s!"conf_ver:{epoch.confVer} ver:{epoch.version}"

/-- A region as the authority reports it; its leader is reported beside it. -/
structure RegionDescriptor where
  id : RegionId
  range : KeyRange
  epoch : Epoch
  peers : List Peer
  deriving DecidableEq

/-! ## Stores -/

/-- The lifecycle of a store: in service, leaving, and removed for good. -/
inductive StoreState where
  | up
  | offline
  | tombstone
  deriving DecidableEq

instance : Named StoreState where
  values := [.up, .offline, .tombstone]
  name
    | .up => "Up"
    | .offline => "Offline"
    | .tombstone => "Tombstone"

structure StoreLabel where
  key : String
  value : String
  deriving DecidableEq

/-- A store as the authority reports it. -/
structure StoreDescriptor where
  id : StoreId
  address : String
  labels : List StoreLabel
  state : StoreState
  deriving DecidableEq

/-! ## Kinds of store -/

/-- The label that tells a columnar store. -/
def columnarEngine : StoreLabel :=
  ⟨"engine", "tiflash"⟩

/-- The kind of store a request is meant for. -/
inductive StoreKind where
  /-- row-oriented stores, reached through the voters of a region -/
  | primary
  /-- columnar stores, reached through the learners of a region -/
  | columnar
  deriving DecidableEq

instance : Named StoreKind where
  values := [.primary, .columnar]
  name
    | .primary => "Primary"
    | .columnar => "Columnar"

namespace StoreKind

/-- The label that a store of the kind must carry, if any. -/
def label : StoreKind → Option StoreLabel
  | primary => none
  | columnar => some columnarEngine

def text : StoreKind → String
  | primary => "primary"
  | columnar => "columnar"

end StoreKind
end RegionRouting
