/-
  Region routing — region values.

  A `Region` is an immutable value: the descriptor of a region, its leader,
  and the store values of those of its peers whose store was resolved.  Like a
  store value it is known by its generation.  The leader is reported beside
  the descriptor and may be none of the peers; `isValid` tells.

  * `voters`, `learners` and `followers` split the peers by role, in order;
  * `currentReplica` is the peer that a selector puts first;
  * `switchLeader` makes the value that another voter leads.
-/
import RegionRouting.Replica
import RegionRouting.Store

namespace RegionRouting

/-- A region with its leader and the stores of its peers. -/
structure Region where
  descriptor : RegionDescriptor
  leader : Peer
  stores : Std.ExtTreeMap StoreId Store
  generation : Generation

namespace Region

/-- A new value.  Of two stores with one id the later is kept. -/
def create (descriptor : RegionDescriptor) (leader : Peer) (stores : List Store)
    (ledger : Ledger) : Region × Ledger :=
  let (generation, ledger) := ledger.issue
  (⟨descriptor, leader, .ofList (stores.map fun store => (store.id, store)), generation⟩, ledger)

/-! ## Views -/

def id (region : Region) : RegionId :=
  region.descriptor.id

def range (region : Region) : KeyRange :=
  region.descriptor.range

def peers (region : Region) : List Peer :=
  region.descriptor.peers

/-- Are the two one value?  Equal content is not enough. -/
def isSame (a b : Region) : Bool :=
  a.generation == b.generation

def voters (region : Region) : List Peer :=
  region.peers.filter (!·.isLearner)

def learners (region : Region) : List Peer :=
  region.peers.filter (·.isLearner)

/-- The voters whose id is not the leader's. -/
def followers (region : Region) : List Peer :=
  region.voters.filter (·.id != region.leader.id)

/-- The first peer on a store. -/
def peerOn? (region : Region) (store : StoreId) : Option Peer :=
  region.peers.find? (·.store == store)

/-- Does the range hold its own start, and is the leader one of the voters? -/
def isValid (region : Region) : Bool :=
  region.range.isProper && region.voters.contains region.leader

/-- The peers that may serve a request, best first. -/
def candidates (region : Region) (selector : ReplicaSelector) : List Peer :=
  selector.select region.leader region.followers

/-- The peer to send a request to: the best candidate, or else the leader. -/
def currentReplica (region : Region) (selector : ReplicaSelector) : Peer :=
  (region.candidates selector).headD region.leader

/-- The region as errors show it. -/
def text (region : Region) : String :=
  let d := region.descriptor
  s!"region \x7bid: {d.id.text}, range: [{d.range.start.text}, {d.range.stop.text}), " ++
    s!"epoch: {d.epoch.text}, leader: {region.leader.text}\x7d"

/-! ## A change of leader -/

/-- A new value, led by the first voter on a store.  There is none if no voter
    is on it. -/
def switchLeader (region : Region) (store : StoreId) (ledger : Ledger) : Option Region × Ledger :=
  match region.voters.find? (·.store == store) with
  | none => (none, ledger)
  | some leader =>
    let (generation, ledger) := ledger.issue
    (some { region with leader, generation }, ledger)

end Region
end RegionRouting
