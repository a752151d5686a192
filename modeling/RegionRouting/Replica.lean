/-
  Region routing — replica selectors.

  A selector turns the leader and the followers of a region into the list of
  peers that may serve a request, best first.
-/
import RegionRouting.Topology

namespace RegionRouting

/-- Which of a region's voters may serve a request. -/
inductive ReplicaSelector where
  | leader
  | follower
  | leaderAndFollower
  deriving DecidableEq

instance : Named ReplicaSelector where
  values := [.leader, .follower, .leaderAndFollower]
  name
    | .leader => "Leader"
    | .follower => "Follower"
    | .leaderAndFollower => "LeaderAndFollower"

/-- The peers that may serve a request, best first: the leader comes after
    its followers, and a learner is never among them. -/
def ReplicaSelector.select (leader : Peer) (followers : List Peer) :
    ReplicaSelector → List Peer
  | .leader => [leader]
  | .follower => followers
  | .leaderAndFollower => followers ++ [leader]

end RegionRouting
