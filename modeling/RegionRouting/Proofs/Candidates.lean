/-
  Region routing — the peers that may serve a request.

  The peers of a region are its voters and its learners, and the voters are its
  followers and the leader.  Followers are told from the leader by their peer id, while a
  region is valid if the very peer that leads it is one of its voters; so the voters
  fall into the leader and the followers only if no two peers have one id.

  * `Merges`: a list is made of two, with the order of both;
  * `Region.Divides` says how peers, voters and followers belong together, and which of
    them each selector puts on its list;
  * `Region.Elects`: whatever the selector, the peer that it puts first is a voter;
  * `Region.candidates_divide`: so it is for a valid region, and for the value that
    another voter leads.
-/
import RegionRouting.Proofs.LeaderSwitch
import RegionRouting.Proofs.RoutedPair

namespace RegionRouting

/-! ## Merged lists -/

variable {α : Type}

/-- The third list has the members of the first two, each in its order. -/
inductive Merges : List α → List α → List α → Prop
  | nil : Merges [] [] []
  | left {a : α} {l r whole : List α} (h : Merges l r whole) : Merges (a :: l) r (a :: whole)
  | right {a : α} {l r whole : List α} (h : Merges l r whole) : Merges l (a :: r) (a :: whole)

/-- A list is made of the members of a kind and the others. -/
theorem merges_filter (kind : α → Bool) (whole : List α) :
    Merges (whole.filter (!kind ·)) (whole.filter kind) whole := by
  induction whole with
  | nil => exact .nil
  | cons a whole ih =>
    cases is : kind a with
    | false => simpa [List.filter_cons, is] using ih.left
    | true => simpa [List.filter_cons, is] using ih.right

namespace Region

variable {region successor : Region}

/-! ## How the peers are divided -/

/-- No two peers have one id. -/
def Distinct (region : Region) : Prop :=
  (region.peers.map Peer.id).Nodup

/-- The peers are the voters and the learners, in order.  The followers are the voters
    without the leader; those and the leader, who comes last, are all the voters, each
    once; for followers alone the leader is left out; and no learner is ever a
    candidate. -/
structure Divides (region : Region) : Prop where
  merged : Merges region.voters region.learners region.peers
  once : region.peers.Nodup
  followers : region.followers = region.voters.erase region.leader
  voting : (region.candidates .leaderAndFollower).Perm region.voters
  last : (region.candidates .leaderAndFollower).getLast? = some region.leader
  single : (region.candidates .leaderAndFollower).Nodup
  follower : region.candidates .follower = (region.candidates .leaderAndFollower).dropLast
  learners (selector : ReplicaSelector) : (region.candidates selector).Disjoint region.learners

/-- The peer that a selector puts first is a voter among the peers. -/
def Elects (region : Region) : Prop :=
  ∀ selector, region.currentReplica selector ∈ region.peers ∧
    (region.currentReplica selector).role = .voter

theorem leader_mem_voters (valid : region.isValid) : region.leader ∈ region.voters :=
  List.contains_iff_mem.1 (Bool.and_eq_true_iff.1 valid).2

theorem mem_voters {peer : Peer} :
    peer ∈ region.voters ↔ peer ∈ region.peers ∧ peer.role = .voter := by
  rw [voters, List.mem_filter, Peer.isLearner]
  cases peer.role <;> simp

theorem elects (valid : region.isValid) : region.Elects :=
  fun selector => mem_voters.1 (currentReplica_mem valid selector)

/-- Peers with ids of their own have different ids. -/
theorem Distinct.nodup_voters (distinct : region.Distinct) : (region.voters.map Peer.id).Nodup :=
  distinct.sublist (List.filter_sublist.map Peer.id)

/-- The voter with the id of the leader is the leader. -/
theorem Distinct.followers_eq (distinct : region.Distinct) (valid : region.isValid) :
    region.followers = region.voters.erase region.leader := by
  rw [(List.Nodup.of_map _ distinct.nodup_voters).erase_eq_filter, followers]
  refine List.filter_congr fun voter votes => ?_
  have same : voter.id = region.leader.id ↔ voter = region.leader :=
    ⟨List.inj_on_of_nodup_map distinct.nodup_voters votes (leader_mem_voters valid),
      congrArg Peer.id⟩
  rw [Bool.eq_iff_iff, bne_iff_ne, bne_iff_ne, ne_eq, ne_eq, same]

theorem Distinct.divides (distinct : region.Distinct) (valid : region.isValid) :
    region.Divides := by
  have followers := distinct.followers_eq valid
  have leads := leader_mem_voters valid
  have all : (region.followers ++ [region.leader]).Perm region.voters := by
    rw [followers]
    exact (List.perm_append_comm).trans (List.perm_cons_erase leads).symm
  refine ⟨merges_filter Peer.isLearner region.peers, .of_map _ distinct, followers, all,
    List.getLast?_concat, ?_, (List.dropLast_concat).symm, fun selector peer chosen learns => ?_⟩
  · exact all.nodup_iff.2 (.of_map _ distinct.nodup_voters)
  · -- each candidate is a voter
    have votes : peer ∈ region.voters := by
      cases selector with
      | leader => exact List.mem_singleton.1 chosen ▸ leads
      | follower => exact List.mem_of_mem_filter chosen
      | leaderAndFollower => exact all.subset chosen
    have voter := (mem_voters.1 votes).2
    have learner : peer.isLearner = true := (List.mem_filter.1 learns).2
    rw [Peer.isLearner, voter] at learner
    cases learner

/-! ## A change of leader -/

/-- Another leader is another one of the same voters. -/
theorem Distinct.followers_perm (distinct : region.Distinct) (valid : region.isValid)
    {leader : Peer} (votes : leader ∈ region.voters) (generation : Generation) :
    let successor := region.withLeader leader generation
    (successor.followers ++ [successor.leader]).Perm (region.followers ++ [region.leader]) := by
  intro successor
  have led : successor.isValid :=
    Bool.and_eq_true_iff.2 ⟨(Bool.and_eq_true_iff.1 valid).1, List.contains_iff_mem.2 votes⟩
  have distinct' : successor.Distinct := distinct
  exact (distinct'.divides led).voting.trans (distinct.divides valid).voting.symm

/-- **Candidates.** Whatever the selector, the peer of a valid region that it puts first
    is a voter; and if no two peers have one id, the candidates are divided as they
    should be.  For each store with a voter on it there is a successor, which is led
    from there; it has the same voters and the same learners, and for it the same
    holds. -/
theorem candidates_divide (valid : region.isValid) :
    region.Elects ∧ (region.Distinct → region.Divides) ∧
    ∀ store ledger, region.HasVoterOn store → ∃ successor,
      (region.switchLeader store ledger).1 = some successor ∧
      successor.leader.store = store ∧
      successor.voters = region.voters ∧ successor.learners = region.learners ∧
      successor.Elects ∧
      (region.Distinct → successor.Divides ∧
        (successor.followers ++ [successor.leader]).Perm
          (region.followers ++ [region.leader])) := by
  refine ⟨elects valid, fun distinct => distinct.divides valid, fun store ledger voted => ?_⟩
  obtain ⟨leader, found⟩ := hasVoterOn_iff.1 voted
  have votes := List.mem_of_find?_eq_some found
  have there : leader.store = store := by simpa using List.find?_some found
  have proper : region.range.isProper := (Bool.and_eq_true_iff.1 valid).1
  have led := (isValid_withLeader found ledger.issued).trans proper
  refine ⟨region.withLeader leader ledger.issued, ?_, there, rfl, rfl, elects led,
    fun distinct => ⟨?_, distinct.followers_perm valid votes ledger.issued⟩⟩
  · rw [switchLeader, found]
    rfl
  · have distinct' : (region.withLeader leader ledger.issued).Distinct := distinct
    exact distinct'.divides led

/-- Three voters, the second of which leads, and a learner. -/
def secondLed : Region where
  descriptor :=
    { id := ⟨1⟩, range := ⟨[], []⟩, epoch := {}
      peers := [⟨⟨1⟩, ⟨1⟩, .voter⟩, ⟨⟨4⟩, ⟨4⟩, .learner⟩, ⟨⟨2⟩, ⟨2⟩, .voter⟩, ⟨⟨3⟩, ⟨3⟩, .voter⟩] }
  leader := ⟨⟨2⟩, ⟨2⟩, .voter⟩
  stores := ∅
  generation := 0

/-- The third one may lead as well. -/
theorem secondLed_divided : secondLed.isValid ∧ secondLed.Divides ∧
    ∃ successor, (secondLed.switchLeader ⟨3⟩ { issued := 1 }).1 = some successor ∧
      successor.Divides := by
  have valid : secondLed.isValid := by decide
  have distinct : secondLed.Distinct := by
    unfold Distinct
    decide
  have voted : secondLed.HasVoterOn ⟨3⟩ := ⟨⟨⟨3⟩, ⟨3⟩, .voter⟩, by decide, rfl⟩
  obtain ⟨-, divides, switches⟩ := candidates_divide valid
  obtain ⟨successor, switched, -, -, -, -, divided⟩ := switches ⟨3⟩ { issued := 1 } voted
  exact ⟨valid, divides distinct, successor, switched, (divided distinct).1⟩

end Region
end RegionRouting
