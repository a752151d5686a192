/-
  Region routing — concurrent lookups share a fetch.

  * `inTurn_shared`: of lookups of keys of one region, made one after the other,
    the first fetches the region for all of them;
  * `serialized`: concurrent lookups have at most one region call outstanding,
    never come to a deadlock, and come to what they come to one after the other
    in the order of the lock; so they share a fetch as well.
-/
import RegionRouting.Proofs.KeySearch
import RegionRouting.Proofs.LockOrder
import RegionRouting.Proofs.Outstanding
import RegionRouting.Proofs.Serving

namespace RegionRouting.Lookup

variable {ω : Type} [Authority ω]

/-! ## One lookup after the other -/

/-- The lookups are of keys of one valid region, which no cached region owns; and
    the authority would supply the region. -/
structure OneRegion (client : Client ω) (calls : List (Key × Backoffer))
    (placement : RegionDescriptor × Peer) : Prop where
  wellFormed : client.cache.regions.WellFormed
  valid : ValidPlacement placement
  owns {call : Key × Backoffer} : call ∈ calls → placement.1.range.contains call.1
  absent {call : Key × Backoffer} : call ∈ calls → client.cache.regions.find? call.1 = none
  supplied {call : Key × Backoffer} : call ∈ calls →
    Supplied client (.byKey call.1) call.2 placement

theorem OneRegion.of_perm {client : Client ω} {calls calls' : List (Key × Backoffer)}
    {placement : RegionDescriptor × Peer} (h : OneRegion client calls placement)
    (perm : calls.Perm calls') : OneRegion client calls' placement where
  wellFormed := h.wellFormed
  valid := h.valid
  owns among := h.owns (perm.symm.subset among)
  absent among := h.absent (perm.symm.subset among)
  supplied among := h.supplied (perm.symm.subset among)

/-- The first lookup fetches the region, and all return it. -/
theorem inTurn_shared {client : Client (Observed ω)} {first : Key × Backoffer}
    {calls : List (Key × Backoffer)} {placement : RegionDescriptor × Peer}
    (h : OneRegion client (first :: calls) placement) : ∃ region : Region,
      region.placement = placement ∧
      (∀ answer ∈ (inTurn regionByKey (first :: calls) client).1, answer.1 = .ok region) ∧
      (inTurn regionByKey (first :: calls) client).2.regionCalls =
        client.regionCalls ++ [.region (.byKey first.1)] := by
  have missed := h.absent List.mem_cons_self
  have called := regionCalls_regionByKey first.2 client first.1
  obtain ⟨region, budget, before, -, same, fetched⟩ :=
    (h.supplied List.mem_cons_self).regionByKey h.valid missed
  let table := (client.cache.regions.insert region).2
  let client' := (before.withRegions table).announceEvicted (client.cache.regions.insert region).1
  have cached : client'.cache.regions = table := by
    dsimp only [client']
    rw [Client.announceEvicted_eq]
    rfl
  have hits : ∀ call ∈ calls, client'.cache.regions.find? call.1 = some region := by
    intro call among
    have wellFormed : table.WellFormed :=
      h.wellFormed.insert (region.isValid_iff.2 (same ▸ h.valid))
    have owns : region.placement.1.range.contains call.1 :=
      same ▸ h.owns (List.mem_cons_of_mem _ among)
    rw [cached]
    exact wellFormed.find?_eq_some_iff.2 ⟨RegionTable.get?_insert_self _ _, owns⟩
  obtain ⟨answers, metrics, rest⟩ :=
    inTurn_hits fun call among => Option.isSome_of_eq_some (hits call among)
  rw [fetched, missed] at called
  rw [inTurn, fetched]
  refine ⟨region, same, fun answer among => ?_, ?_⟩
  · rcases List.mem_cons.1 among with rfl | later
    · rfl
    · obtain ⟨call, member, other, found, rfl⟩ := answers answer later
      cases (hits call member).symm.trans found
      rfl
  · dsimp only
    rw [rest]
    exact called

/-! ## Concurrent lookups -/

/-- The region of a placement was fetched for one of the lookups, and all of them
    return it. -/
def SharesFetch (client : Client (Observed ω)) (calls : List (Key × Backoffer))
    (placement : RegionDescriptor × Peer) (crowd : Crowd (Client (Observed ω)) Answer)
    (answers : List Answer) : Prop :=
  ∃ region : Region, region.placement = placement ∧ (∀ answer ∈ answers, answer.1 = .ok region) ∧
    ∃ call ∈ calls, crowd.state.regionCalls = client.regionCalls ++ [.region (.byKey call.1)]

/-- What is true of a crowd of lookups at any time since it found a client. -/
structure Serialized (client : Client (Observed ω)) (calls : List (Key × Backoffer))
    (crowd : Crowd (Client (Observed ω)) Answer) : Prop where
  /-- at most one region call is outstanding -/
  alone {i j : Nat} {routine routine' : Routine (Client (Observed ω)) Answer} :
    crowd.members[i]? = some routine → crowd.members[j]? = some routine' →
      AwaitsRegion routine → AwaitsRegion routine' → i = j
  /-- it is, once it was placed -/
  placed {i : Nat} : (crowd.step i).state.regionCalls ≠ crowd.state.regionCalls →
    ∃ routine, (crowd.step i).members[i]? = some routine ∧ AwaitsRegion routine
  /-- all the lookups can come to an end -/
  finishes : ∃ schedule answers, (crowd.after schedule).Answered answers
  /-- then they have come to what they come to in the order of the lock -/
  ordered {answers : List Answer} : crowd.Answered answers → InLockOrder client calls crowd answers
  /-- and those of keys of one region have fetched it once -/
  shared {answers : List Answer} {placement : RegionDescriptor × Peer} :
    crowd.Answered answers → calls ≠ [] → OneRegion client calls placement →
      SharesFetch client calls placement crowd answers

theorem InLockOrder.shared {client : Client (Observed ω)} {calls : List (Key × Backoffer)}
    {crowd : Crowd (Client (Observed ω)) Answer} {answers : List Answer}
    {placement : RegionDescriptor × Peer} (h : InLockOrder client calls crowd answers)
    (some : calls ≠ []) (one : OneRegion client calls placement) :
    SharesFetch client calls placement crowd answers := by
  have order := inOrder_perm h.turns
  have answered := inOrder_perm (h.length ▸ h.turns)
  have alone := h.answers
  have state := h.state
  generalize inOrder crowd.turns calls = calls' at order alone state
  obtain _ | ⟨first, calls'⟩ := calls'
  · exact absurd order.symm.eq_nil some
  · obtain ⟨region, same, all, called⟩ := inTurn_shared (one.of_perm order.symm)
    have member : first ∈ calls := order.subset List.mem_cons_self
    refine ⟨region, same, fun answer among => all answer ?_, first, member, ?_⟩
    · rw [← alone]
      exact answered.symm.subset among
    · rw [state]
      exact called

/-- **Serialized misses.** So it is whatever the schedule of the lookups is. -/
theorem serialized (client : Client (Observed ω)) (calls : List (Key × Backoffer))
    (schedule : List Nat) : Serialized client calls ((gathered client calls).after schedule) := by
  obtain ⟨account⟩ := (Account.start client calls).after schedule
  have watchful : ∀ routine ∈ ((gathered client calls).after schedule).members,
      routine.Watchful := by
    refine Crowd.watchful_after (fun routine among => ?_) schedule
    obtain ⟨call, -, rfl⟩ := List.mem_map.1 among
    exact watchful_regionByKey call.1 call.2
  constructor
  · intro i j routine routine' here there awaits awaits'
    have owner := account.owner_of_holds here (holds_of_awaitsRegion awaits)
    have owner' := account.owner_of_holds there (holds_of_awaitsRegion awaits')
    exact Option.some.inj (owner.symm.trans owner')
  · exact Crowd.awaits_of_step watchful
  · exact account.exists_answered
  · exact account.inLockOrder
  · intro answers placement done some one
    exact (account.inLockOrder done).shared some one

/-- Three lookups of keys of the upper half; the third has a budget that pays for
    no retry. -/
def upperCalls : List (Key × Backoffer) :=
  [([7], {}), ([5], {}), ([6, 1], { config := { maxAttempts := 0 } })]

theorem upperCalls_oneRegion : ∃ upper, OneRegion newcomer upperCalls upper := by
  obtain ⟨upper, among, owns⟩ : ∃ placement ∈ halves.regions,
      ∀ call ∈ upperCalls, placement.1.range.contains call.1 := by decide +kernel
  exact ⟨upper, .empty, partition_halves.valid among, owns _, fun _ => rfl, fun {call} member =>
    halves_serves.observed.supplied call.2 .refl among (owns call member)⟩

/-- Callers of one region who begin in turn may then come to an end, and have fetched the
    region once. -/
theorem upperCalls_serialized : ∃ schedule answers, ∃ region : Region,
    ((gathered newcomer upperCalls).after ([0, 1, 2, 2, 1] ++ schedule)).Answered answers ∧
      answers.length = 3 ∧ (∀ answer ∈ answers, answer.1 = .ok region) ∧
      ((gathered newcomer upperCalls).after
        ([0, 1, 2, 2, 1] ++ schedule)).state.regionCalls.length = 1 := by
  obtain ⟨schedule, answers, done⟩ := (serialized newcomer upperCalls [0, 1, 2, 2, 1]).finishes
  rw [← Crowd.after_append] at done
  have settled := serialized newcomer upperCalls ([0, 1, 2, 2, 1] ++ schedule)
  obtain ⟨upper, one⟩ := upperCalls_oneRegion
  obtain ⟨region, -, all, call, -, called⟩ := settled.shared done (by decide) one
  refine ⟨schedule, answers, region, done, (settled.ordered done).length, all, ?_⟩
  rw [called]
  rfl

end RegionRouting.Lookup
