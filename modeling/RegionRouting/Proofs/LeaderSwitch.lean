/-
  Region routing — switches of leader.

  A switch of leader makes a new value of a region, which the first voter on a
  store leads, and updates the region with it.  The update goes the way of all
  insertions, which evict what stands in their way; but here nothing does, since
  the new value has the range of the one that it replaces.

  * `RegionTable.WellFormed.insert_put`: to insert a value in the place of one with
    the same descriptor is to put it there, and no more;
  * `Operation.run_updateLeader`: so a switch comes to `Client.switched`;
  * `Client.Leads` says what a switch does that is applied, and
    `Client.switched_comm` that switches of different regions commute, but for
    the generations that they give out;
  * `Run.leader_switched` puts this together for every moment of a run.
-/
import RegionRouting.Proofs.Insertion
import RegionRouting.Proofs.OneWinner

namespace RegionRouting

variable {ω : Type} {region other successor : Region} {leader : Peer} {store store' : StoreId}

/-! ## Voters and successors -/

/-- Is the peer a voter on the store? -/
def Peer.votesOn (peer : Peer) (store : StoreId) : Bool :=
  !peer.isLearner && peer.store == store

namespace Region

/-- Is there a voter of the region on the store? -/
def HasVoterOn (region : Region) (store : StoreId) : Prop :=
  ∃ peer ∈ region.peers, peer.votesOn store

/-- The value of the region that another peer leads. -/
def withLeader (region : Region) (leader : Peer) (generation : Generation) : Region :=
  { region with leader, generation }

/-- What a value says, whatever its generation. -/
def unnumbered (region : Region) : Region :=
  { region with generation := 0 }

theorem find?_voters (region : Region) (store : StoreId) :
    region.voters.find? (·.store == store) = region.peers.find? (·.votesOn store) := by
  simp [voters, Peer.votesOn, List.find?_filter, Bool.beq_eq_decide_eq]

theorem hasVoterOn_iff :
    region.HasVoterOn store ↔ ∃ leader, region.voters.find? (·.store == store) = some leader := by
  rw [find?_voters, ← Option.isSome_iff_exists, List.find?_isSome]
  rfl

/-- A successor is valid if its range is, since a voter leads it. -/
theorem isValid_withLeader (found : region.voters.find? (·.store == store) = some leader)
    (generation : Generation) :
    (region.withLeader leader generation).isValid = region.range.isProper := by
  have votes : region.voters.contains leader :=
    List.contains_iff_mem.2 (List.mem_of_find?_eq_some found)
  change (region.range.isProper && region.voters.contains leader) = _
  rw [votes, Bool.and_true]

end Region

/-! ## A value in the place of another -/

namespace RegionTable

variable {table : RegionTable} {id : RegionId} {key : Key}

/-- Puts a region in the place of one with the same range. -/
def put (table : RegionTable) (region : Region) : RegionTable :=
  { table with regions := table.regions.insert region.id region }

theorem get?_put (table : RegionTable) (region : Region) (id : RegionId) :
    (table.put region).get? id = if id = region.id then some region else table.get? id := by
  simp only [put, get?, Std.ExtTreeMap.getElem?_insert, Std.LawfulEqCmp.compare_eq_iff_eq,
    eq_comm (a := region.id)]

section
variable (h : table.WellFormed) (cached : table.get? region.id = some region)
  (same : successor.descriptor = region.descriptor)
include h cached same

/-- **In place.** Nothing stands in the way of a value with the descriptor of a
    cached one, and the index stays as it is. -/
theorem WellFormed.insert_put (valid : successor.isValid) :
    table.insert successor = ([], table.put successor) := by
  have id : successor.id = region.id := congrArg RegionDescriptor.id same
  have range : successor.range = region.range := congrArg RegionDescriptor.range same
  have unmoved : (table.insert successor).1 = [] := by
    refine List.eq_nil_iff_forall_not_mem.2 fun r evicted => ?_
    obtain ⟨present, elsewhere, key, own, shared⟩ := (h.mem_insert_fst_iff valid).1 evicted
    rw [range] at own
    exact elsewhere ((h.disjoint present cached shared own).trans id.symm)
  have values (other : RegionId) :
      (table.insert successor).2.get? other = (table.put successor).get? other := by
    rw [get?_put]
    ext r
    rw [h.get?_insert_iff valid]
    split
    · next own => simp [own, eq_comm]
    · next elsewhere =>
      simp only [elsewhere, false_and, ne_eq, not_false_eq_true, true_and, false_or,
        and_iff_left_iff_imp]
      rintro present ⟨key, own, shared⟩
      rw [range] at own
      exact elsewhere ((h.disjoint present cached shared own).trans id.symm)
  have index : (table.insert successor).2.index = table.index := by
    refine Std.ExtTreeMap.ext_getElem? fun start => Option.ext fun ⟨stop, owner⟩ => ?_
    rw [(h.insert valid).index_iff, h.index_iff]
    by_cases own : owner = successor.id
    · subst own
      rw [values, get?_put, if_pos rfl, id, cached]
      simp [range]
    · rw [values, get?_put, if_neg own]
  have regions : (table.insert successor).2.regions = (table.put successor).regions :=
    Std.ExtTreeMap.ext_getElem? values
  have table' : (table.insert successor).2 = table.put successor := by
    calc (table.insert successor).2
        = ⟨(table.insert successor).2.index, (table.insert successor).2.regions⟩ := rfl
      _ = table.put successor := by rw [index, regions]; rfl
  rw [← unmoved, ← table']

end

/-- Every key resolves to the id that it resolved to before. -/
theorem find?_put (cached : table.get? region.id = some region)
    (same : successor.descriptor = region.descriptor) :
    ((table.put successor).find? key).map Region.id = (table.find? key).map Region.id := by
  have own : successor.id = region.id := congrArg RegionDescriptor.id same
  -- the index is the same, and so is the entry that is inspected
  have floor : (table.put successor).floor? key = table.floor? key := rfl
  rw [find?, find?, floor]
  cases table.floor? key with
  | none => rfl
  | some extent =>
    simp only [Option.bind_eq_bind, Option.bind_some, get?_put]
    split
    · split
      · next at_own => rw [at_own, own, cached, Option.map_some, Option.map_some, own]
      · rfl
    · rfl

end RegionTable

/-! ## What a switch comes to -/

/-- What a switch of leader comes to: there is no voter on the store; or there is,
    and the successor takes the place of the region, if that is cached. -/
def Client.switched (client : Client ω) (region : Region) (store : StoreId) :
    Option Region × Client ω :=
  match region.voters.find? (·.store == store) with
  | none => (none, client)
  | some leader =>
    let successor := region.withLeader leader client.ledger.issued
    let issued := { client with ledger := client.ledger.issue.2 }
    if client.cache.regions.holds region then
      (some successor,
        (issued.record (.swap true)).withRegions (client.cache.regions.put successor))
    else
      (none, if region.range.isProper then issued.record (.swap false) else issued)

section
variable {client : Client ω} (table : client.cache.regions.WellFormed)
  (known : client.cache.regions.holds region →
    client.cache.regions.get? region.id = some region)
include table known

/-- An update with a successor finds what it expects exactly if the region is held,
    and then puts it in its place. -/
theorem Client.updateRegion_successor
    (found : region.voters.find? (·.store == store) = some leader) (generation : Generation) :
    client.updateRegion (some region) (region.withLeader leader generation) =
      if client.cache.regions.holds region then
        (true, (client.record (.swap true)).withRegions
          (client.cache.regions.put (region.withLeader leader generation)))
      else
        (false, if region.range.isProper then client.record (.swap false) else client) := by
  have valid := Region.isValid_withLeader found generation
  have expects : expects (client.cache.regions.get? region.id) (some region) =
      client.cache.regions.holds region := by
    rw [Bool.eq_iff_iff, expects_some_iff, RegionTable.holds_iff]
  have applied : (client.updateRegion (some region) (region.withLeader leader generation)).1 =
      (region.range.isProper && client.cache.regions.holds region) := by
    rw [updateRegion_fst, valid, ← expects]
    rfl
  split
  · next held =>
    have cached := known held
    have proper : region.range.isProper := (Bool.and_eq_true_iff.1 (table.valid cached)).1
    rw [held, proper] at applied
    have inserted : client.cache.regions.insert (region.withLeader leader generation) = _ :=
      table.insert_put cached rfl (valid.trans proper)
    refine Prod.ext applied ?_
    rw [updateRegion_snd_of_applied _ _ _ applied, inserted]
    rfl
  · next other =>
    rw [Bool.not_eq_true] at other
    rw [other, Bool.and_false] at applied
    refine Prod.ext applied ?_
    rw [updateRegion_snd_of_refused _ _ _ applied, valid]

/-- **A switch**, in a well-formed table that holds the region only as the very
    value that is presented. -/
theorem Operation.run_updateLeader :
    (Operation.updateLeader region store).run client = client.switched region store := by
  rw [updateLeader, Routine.run_bind, Routine.run_perform, Client.create, Region.switchLeader,
    Client.switched]
  cases found : region.voters.find? (·.store == store) with
  | none => rfl
  | some leader =>
    let issued : Client ω := { client with ledger := client.ledger.issue.2 }
    have table' : issued.cache.regions.WellFormed := table
    have update := Client.updateRegion_successor table' known found client.ledger.issued
    change Routine.run (do
      return if ← updateRegion (some region) (region.withLeader leader client.ledger.issued)
        then some (region.withLeader leader client.ledger.issued) else none) issued = _
    rw [Routine.run_bind, run_updateRegion, update]
    change _ = if issued.cache.regions.holds region then _ else _
    cases issued.cache.regions.holds region <;> rfl

end

/-! ## Switches of different regions -/

namespace RegionTable

variable {table : RegionTable}

/-- The table with its values unnumbered. -/
def unnumbered (table : RegionTable) : RegionTable :=
  { table with regions := table.regions.map fun _ region => region.unnumbered }

theorem unnumbered_put :
    (table.put region).unnumbered = table.unnumbered.put region.unnumbered := by
  have regions : (table.put region).unnumbered.regions =
      (table.unnumbered.put region.unnumbered).regions := by
    refine Std.ExtTreeMap.ext_getElem? fun id => ?_
    have id' : region.unnumbered.id = region.id := rfl
    simp only [unnumbered, put, Std.ExtTreeMap.getElem?_map, Std.ExtTreeMap.getElem?_insert, id']
    split <;> rfl
  exact congrArg (RegionTable.mk table.index) regions

theorem put_comm (apart : other.id ≠ region.id) :
    (table.put region).put other = (table.put other).put region := by
  have regions : ((table.put region).put other).regions =
      ((table.put other).put region).regions := by
    refine Std.ExtTreeMap.ext_getElem? fun id => ?_
    change ((table.put region).put other).get? id = ((table.put other).put region).get? id
    simp only [get?_put]
    by_cases mine : id = region.id
    · rw [if_neg (mine ▸ apart.symm), if_pos mine, if_pos mine]
    · rw [if_neg mine, if_neg mine]
  exact congrArg (RegionTable.mk table.index) regions

end RegionTable

namespace Client

/-- The client with its regions unnumbered. -/
def unnumbered (client : Client ω) : Client ω :=
  client.withRegions client.cache.regions.unnumbered

variable (client : Client ω)

/-- What a switch returns depends on whether the region is held, and on nothing
    else in the client but the generation. -/
theorem switched_fst : (client.switched region store).1.map Region.unnumbered =
    if client.cache.regions.holds region then
      (region.voters.find? (·.store == store)).map fun leader => region.withLeader leader 0
    else none := by
  unfold switched
  cases region.voters.find? (·.store == store) with
  | none => simp
  | some leader => cases client.cache.regions.holds region <;> rfl

theorem get?_switched (store : StoreId) {id : RegionId} (apart : id ≠ region.id) :
    (client.switched region store).2.cache.regions.get? id = client.cache.regions.get? id := by
  unfold switched
  cases region.voters.find? (·.store == store) with
  | none => rfl
  | some leader =>
    dsimp only
    split
    · exact (RegionTable.get?_put _ _ _).trans (if_neg apart)
    · split <;> rfl

/-- Whether another region is held is not touched by a switch. -/
theorem holds_switched (store : StoreId) (apart : other.id ≠ region.id) :
    (client.switched region store).2.cache.regions.holds other =
      client.cache.regions.holds other := by
  rw [RegionTable.holds, RegionTable.holds, get?_switched client store apart]

/-- What a switch does to a client with unnumbered regions, if it is known whether
    the region is held. -/
def settle (client : Client ω) (held : Bool) (region : Region) (store : StoreId) : Client ω :=
  match region.voters.find? (·.store == store) with
  | none => client
  | some leader =>
    let issued := { client with ledger := client.ledger.issue.2 }
    if held then
      (issued.record (.swap true)).withRegions
        (client.cache.regions.put (region.withLeader leader 0))
    else
      if region.range.isProper then issued.record (.swap false) else issued

theorem unnumbered_switched (store : StoreId) : (client.switched region store).2.unnumbered =
    client.unnumbered.settle (client.cache.regions.holds region) region store := by
  unfold switched settle
  cases region.voters.find? (·.store == store) with
  | none => rfl
  | some leader =>
    dsimp only
    split
    · unfold unnumbered
      rw [withRegions, withRegions, RegionTable.unnumbered_put]
      rfl
    · split <;> rfl

theorem settle_comm (apart : other.id ≠ region.id) (held held' : Bool) (store store' : StoreId) :
    (client.settle held region store).settle held' other store' =
      (client.settle held' other store').settle held region store := by
  unfold settle
  cases region.voters.find? (·.store == store) with
  | none => rfl
  | some leader =>
    cases other.voters.find? (·.store == store') with
    | none => rfl
    | some leader' =>
      cases held <;> cases held'
      · -- the conditionals are decided first, for the kernel would carry them along
        cases region.range.isProper <;> cases other.range.isProper <;>
          simp only [Bool.false_eq_true, ↓reduceIte] <;> rfl
      · cases region.range.isProper <;> rfl
      · cases other.range.isProper <;> rfl
      · let first := region.withLeader leader 0
        let second := other.withLeader leader' 0
        have swapped : (client.cache.regions.put first).put second =
            (client.cache.regions.put second).put first := RegionTable.put_comm apart
        exact congrArg (withRegions
          { client with
            ledger := client.ledger.issue.2.issue.2
            metrics := (client.metrics.record (.swap true)).record (.swap true) }) swapped

/-- **Commuting.** Switches of different regions come to the same in either order,
    but for the generations that they give out. -/
theorem switched_comm (apart : other.id ≠ region.id) (store store' : StoreId) :
    ((client.switched region store).2.switched other store').2.unnumbered =
      ((client.switched other store').2.switched region store).2.unnumbered := by
  simp only [unnumbered_switched, holds_switched client _ apart,
    holds_switched client _ apart.symm]
  exact settle_comm _ apart _ _ store store'

variable {client}

theorem wellFormed_switched (table : client.cache.regions.WellFormed)
    (known : client.cache.regions.holds region →
      client.cache.regions.get? region.id = some region) (store : StoreId) :
    (client.switched region store).2.cache.regions.WellFormed := by
  unfold switched
  cases found : region.voters.find? (·.store == store) with
  | none => exact table
  | some leader =>
    dsimp only
    split
    · next held =>
      have cached := known held
      have proper : region.range.isProper := (Bool.and_eq_true_iff.1 (table.valid cached)).1
      have valid := (Region.isValid_withLeader found client.ledger.issued).trans proper
      have inserted : client.cache.regions.insert
          (region.withLeader leader client.ledger.issued) = _ := table.insert_put cached rfl valid
      have after := table.insert valid
      rw [inserted] at after
      exact after
    · split <;> exact table

theorem isSome_switched (known : client.cache.regions.holds region →
      client.cache.regions.get? region.id = some region) : (client.switched region store).1.isSome ↔
    client.cache.regions.get? region.id = some region ∧ region.HasVoterOn store := by
  rw [Region.hasVoterOn_iff]
  unfold switched
  cases region.voters.find? (·.store == store) with
  | none => simp
  | some leader =>
    dsimp only
    split
    · next held => exact iff_of_true rfl ⟨known held, leader, rfl⟩
    · next other =>
      refine iff_of_false (by simp) ?_
      rintro ⟨cached, -⟩
      exact other (RegionTable.holds_iff.2 ⟨region, cached, by simp [Region.isSame]⟩)

end Client

/-! ## Switches in a run -/

namespace Client

/-- The successor has taken the place of the region: it has its descriptor and its
    stores, a new generation, and for leader the first voter on the store; the
    index and all other regions are as before, keys resolve to the same ids, and
    nothing is announced. -/
structure Leads (client : Client ω) (region : Region) (store : StoreId) (successor : Region)
    (client' : Client ω) : Prop where
  descriptor : successor.descriptor = region.descriptor
  stores : successor.stores = region.stores
  leader : region.peers.find? (·.votesOn store) = some successor.leader
  fresh : successor.generation = client.ledger.issued
  valid : successor.isValid
  cached (id : RegionId) : client'.cache.regions.get? id =
    if id = region.id then some successor else client.cache.regions.get? id
  index : client'.cache.regions.index = client.cache.regions.index
  resolves (key : Key) : (client'.cache.regions.find? key).map Region.id =
    (client.cache.regions.find? key).map Region.id
  rest : client' = { client with
    cache := { client.cache with regions := client'.cache.regions }
    ledger := client.ledger.issue.2
    metrics := client.metrics.record (.swap true) }

/-- The switch was of no effect: a generation may have been given out, and the
    refusal is counted if the region has a voter on the store and a proper range. -/
structure Stays (client : Client ω) (region : Region) (store : StoreId) (client' : Client ω) :
    Prop where
  rest : client' = { client with ledger := client'.ledger, metrics := client'.metrics }
  counted : region.HasVoterOn store ∧ region.range.isProper →
    client'.metrics = client.metrics.record (.swap false)
  uncounted : ¬(region.HasVoterOn store ∧ region.range.isProper) →
    client'.metrics = client.metrics

variable {client : Client ω}

theorem leads_switched (table : client.cache.regions.WellFormed)
    (known : client.cache.regions.holds region → client.cache.regions.get? region.id = some region)
    (switched : (client.switched region store).1 = some successor) :
    client.Leads region store successor (client.switched region store).2 := by
  unfold Client.switched at switched ⊢
  cases found : region.voters.find? (·.store == store) with
  | none => simp [found] at switched
  | some leader =>
    simp only [found] at switched ⊢
    split at switched
    · next held =>
      cases switched
      have cached := known held
      have valid := Region.isValid_withLeader found client.ledger.issued
      rw [if_pos held]
      refine ⟨rfl, rfl, ?_, rfl, ?_, fun id => ?_, rfl, fun key => ?_, rfl⟩
      · rw [← Region.find?_voters, found]
        rfl
      · exact valid.trans (Bool.and_eq_true_iff.1 (table.valid cached)).1
      · exact RegionTable.get?_put _ _ _
      · exact RegionTable.find?_put cached rfl
    · cases switched

theorem stays_switched (refused : (client.switched region store).1 = none) :
    client.Stays region store (client.switched region store).2 := by
  unfold Client.switched at refused ⊢
  cases found : region.voters.find? (·.store == store) with
  | none =>
    have unled : ¬region.HasVoterOn store := by
      rw [Region.hasVoterOn_iff, found]
      rintro ⟨leader, ⟨⟩⟩
    exact ⟨rfl, fun both => absurd both.1 unled, fun _ => rfl⟩
  | some leader =>
    have led : region.HasVoterOn store := Region.hasVoterOn_iff.2 ⟨leader, found⟩
    simp only [found] at refused ⊢
    split at refused
    · cases refused
    · next other =>
      rw [if_neg other]
      split
      · next proper => exact ⟨rfl, fun _ => rfl, fun neither => absurd ⟨led, proper⟩ neither⟩
      · next improper => exact ⟨rfl, fun both => absurd both.2 improper, fun _ => rfl⟩

end Client

namespace Run

variable [Authority ω] [Prober ω]

/-- A value that was given out is held only as that very value. -/
theorem get?_of_holds (run : Run ω) (i : Nat) (given : region ∈ (run.moment i).regions)
    (held : (run.moment i).client.cache.regions.holds region) :
    (run.moment i).client.cache.regions.get? region.id = some region := by
  obtain ⟨census, lists⟩ := run.census i
  obtain ⟨cached, present, same⟩ := RegionTable.holds_iff.1 held
  cases census.eq_of_generation (lists.regions present) (lists.givenRegions given)
    (beq_iff_eq.1 same)
  exact present

/-- **Switches of leader.** At every moment of a run, a switch of a region that was
    given out is applied exactly if the region is cached and has a voter on the
    store.  Then the successor, whose generation is above all that were given out,
    takes its place, and else the cache stays as it is.  Switches of two regions
    come to the same in either order, but for generations; so neither makes the
    other fail. -/
theorem leader_switched (run : Run ω) (i : Nat) {region : Region}
    (given : region ∈ (run.moment i).regions) (store : StoreId) :
    let client := (run.moment i).client
    let switch := (Operation.updateLeader region store).run client
    (switch.1.isSome ↔
      client.cache.regions.get? region.id = some region ∧ region.HasVoterOn store) ∧
    (∀ successor, switch.1 = some successor → client.Leads region store successor switch.2 ∧
      ∀ known ∈ (run.moment i).regions, known.generation < successor.generation) ∧
    (switch.1 = none → client.Stays region store switch.2) ∧
    (∀ other ∈ (run.moment i).regions, other.id ≠ region.id → ∀ store',
      let switch' := (Operation.updateLeader other store').run client
      let later := (Operation.updateLeader region store).run switch'.2
      let later' := (Operation.updateLeader other store').run switch.2
      later.1.map Region.unnumbered = switch.1.map Region.unnumbered ∧
      later'.1.map Region.unnumbered = switch'.1.map Region.unnumbered ∧
      later'.2.unnumbered = later.2.unnumbered) := by
  intro client switch
  have table : client.cache.regions.WellFormed := run.wellFormed_moment i
  have known {region : Region} (given : region ∈ (run.moment i).regions) :
      client.cache.regions.holds region →
        client.cache.regions.get? region.id = some region := run.get?_of_holds i given
  have same : switch = client.switched region store :=
    Operation.run_updateLeader table (known given)
  rw [same]
  refine ⟨Client.isSome_switched (known given), ?_, Client.stays_switched, ?_⟩
  · intro successor switched
    have leads := Client.leads_switched table (known given) switched
    refine ⟨leads, fun known among => ?_⟩
    obtain ⟨census, lists⟩ := run.census i
    rw [leads.fresh, ← lists.issued]
    exact census.generation_lt (lists.givenRegions among)
  · intro other given' apart store' switch' later later'
    have same' : switch' = client.switched other store' :=
      Operation.run_updateLeader table (known given')
    -- each of the two finds the other's region as it was
    have mine : later = switch'.2.switched region store := by
      refine Operation.run_updateLeader ?_ ?_ <;> rw [same']
      · exact Client.wellFormed_switched table (known given') store'
      · rw [client.holds_switched store' apart.symm, client.get?_switched store' apart.symm]
        exact known given
    have theirs : later' = (client.switched region store).2.switched other store' := by
      refine Operation.run_updateLeader ?_ ?_
      · exact Client.wellFormed_switched table (known given) store
      · rw [client.holds_switched store apart, client.get?_switched store apart]
        exact known given'
    rw [mine, theirs, same']
    refine ⟨?_, ?_, client.switched_comm apart store store'⟩
    · rw [Client.switched_fst, Client.switched_fst, client.holds_switched store' apart.symm]
    · rw [Client.switched_fst, Client.switched_fst, client.holds_switched store apart]

/-- The second voter of the raced region may lead it. -/
theorem raced_switched : raced ∈ (race.moment 2).regions ∧
    ((Operation.updateLeader raced ⟨2⟩).run (race.moment 2).client).1.isSome :=
  have given : raced ∈ (race.moment 2).regions := List.mem_singleton_self raced
  ⟨given, (leader_switched race 2 given ⟨2⟩).1.2
    ⟨rfl, ⟨⟨2⟩, ⟨2⟩, .voter⟩, by decide, rfl⟩⟩

end Run

end RegionRouting
