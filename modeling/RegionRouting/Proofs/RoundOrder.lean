/-
  Region routing — the order of a round of health checks.

  A round takes the waiting stores in some order, and what it does for one of them may
  drop regions, drop or replace a store, count and announce.  If the answers about a store
  depend on its id alone, then the order is no matter: only the generations of the values
  that are made tell in which order they were.

  * `exists_renaming`: a permutation of generations that takes one order of some values
    to another, and `Store.rename` does so to a value;
  * `Client.AgreesSince` relates the clients that two orders leave, and
    `Client.agreesSince_undergoAll` says that they are related;
  * `Checker.checkInOrder` is a round that takes the stores in a given order, and
    `Run.round_in_any_order` says that all orders come to the same.
-/
import Mathlib.Logic.Equiv.Defs
import RegionRouting.Proofs.MetricTotals
import RegionRouting.Proofs.RoundSum

namespace RegionRouting

variable {ω : Type}

/-! ## Generations under other names -/

/-- The same value, and the same proxies, with other generations. -/
def Store.rename (ρ : Generation → Generation) : Store → Store
  | direct descriptor generation => direct descriptor (ρ generation)
  | forwarded descriptor generation proxy => forwarded descriptor (ρ generation) (proxy.rename ρ)

/-- A value that was made is left alone by a renaming of those that are made later. -/
theorem Census.rename_eq {census : Census} {ρ : Generation → Generation}
    (fixed : ∀ g < census.values.length, ρ g = g) {store : Store}
    (known : .store store ∈ census.values) : store.rename ρ = store := by
  induction store with
  | direct descriptor generation =>
    exact congrArg _ (fixed generation (census.generation_lt known))
  | forwarded descriptor generation proxy ih =>
    rw [Store.rename, ih (census.closed known rfl),
      fixed generation (census.generation_lt known)]

/-- Takes the place of each id in one list to its place in another, where places are
    counted from an offset. -/
def relabel (offset : Generation) (ids ids' : List StoreId) (g : Generation) : Generation :=
  if offset ≤ g then ids[g - offset]?.elim g (offset + ids'.idxOf ·) else g

section
variable {ids ids' : List StoreId} {offset : Generation}

theorem relabel_idxOf {id : StoreId} (member : id ∈ ids) :
    relabel offset ids ids' (offset + ids.idxOf id) = offset + ids'.idxOf id := by
  rw [relabel, if_pos (Nat.le_add_right _ _), Nat.add_sub_cancel_left, List.getElem?_idxOf member]
  rfl

theorem relabel_of_none {g : Generation} (beyond : ids[g - offset]? = none) :
    relabel offset ids ids' g = g := by
  rw [relabel, beyond]
  split <;> rfl

theorem relabel_relabel (order : ids.Perm ids') (distinct : ids.Nodup) (g : Generation) :
    relabel offset ids' ids (relabel offset ids ids' g) = g := by
  by_cases le : offset ≤ g
  · cases found : ids[g - offset]? with
    | none =>
      have beyond : ids'[g - offset]? = none := by
        rw [List.getElem?_eq_none_iff] at found ⊢
        rwa [← order.length_eq]
      rw [relabel_of_none found, relabel_of_none beyond]
    | some id =>
      obtain ⟨lt, here⟩ := List.getElem?_eq_some_iff.1 found
      have place : g = offset + ids.idxOf id := by
        rw [← here, distinct.idxOf_getElem, Nat.add_sub_cancel' le]
      have member : id ∈ ids := here ▸ List.getElem_mem lt
      rw [place, relabel_idxOf member, relabel_idxOf (order.subset member)]
  · simp only [relabel, if_neg le]

/-- Two orders of the same ids differ by a permutation of the places, from the offset on
    and up to the number of ids. -/
theorem exists_renaming (order : ids.Perm ids') (distinct : ids.Nodup) (offset : Generation) :
    ∃ ρ : Equiv.Perm Generation, (∀ g < offset, ρ g = g) ∧
      (∀ g, offset + ids.length ≤ g → ρ g = g) ∧
      ∀ id ∈ ids, ρ (offset + ids.idxOf id) = offset + ids'.idxOf id := by
  refine ⟨{
    toFun := relabel offset ids ids'
    invFun := relabel offset ids' ids
    left_inv := relabel_relabel order distinct
    right_inv := relabel_relabel order.symm (order.nodup_iff.1 distinct) },
    fun g below => if_neg (Nat.not_le.2 below), fun g above => relabel_of_none ?_,
    fun id member => relabel_idxOf member⟩
  exact List.getElem?_eq_none_iff.2 (Nat.le_sub_of_add_le' above)

end

/-! ## Two orders -/

/-- Two consistent tables with the same regions have the same index. -/
theorem RegionTable.Consistent.eq_of_get? {table table' : RegionTable} (h : table.Consistent)
    (h' : table'.Consistent) (same : ∀ id, table.get? id = table'.get? id) : table = table' := by
  obtain ⟨index, regions⟩ := table
  obtain ⟨index', regions'⟩ := table'
  have cached : regions = regions' := Std.ExtTreeMap.ext_getElem? same
  have indexed : index = index' := by
    refine Std.ExtTreeMap.ext_getElem? fun start => Option.ext fun ⟨stop, id⟩ => ?_
    exact h.index_iff.trans ((exists_congr fun r => by rw [same]).trans h'.index_iff.symm)
  rw [cached, indexed]

/-- Since so many generations were given out, two clients have come to the same, but for
    the names of the values that were made since: the same regions, the same stores up to
    a permutation of those generations, all judged alike, the same counts, and the same
    notices in some order. -/
structure Client.AgreesSince (issued : Generation) (one other : Client ω) : Prop where
  regions : other.cache.regions = one.cache.regions
  stores : ∃ ρ : Equiv.Perm Generation, (∀ g < issued, ρ g = g) ∧
    (∀ g, one.ledger.issued ≤ g → ρ g = g) ∧
    (∀ id : StoreId, other.cache.stores[id]? = one.cache.stores[id]?.map (Store.rename ρ)) ∧
    ∀ (id : StoreId) (store : Store), one.cache.stores[id]? = some store →
      other.ledger.reaches (store.rename ρ) = one.ledger.reaches store
  ledger : other.ledger = one.ledger
  metrics : other.metrics = one.metrics
  notices : other.notices.Perm one.notices

theorem Store.generation_rename (ρ : Generation → Generation) (store : Store) :
    (store.rename ρ).generation = ρ store.generation := by
  cases store <;> rfl

theorem Ledger.Sound.lt_of_mem {ledger : Ledger} (sound : ledger.Sound) {g : Generation}
    (member : g ∈ ledger.unreachable) : g < ledger.issued :=
  sound (.direct ⟨⟨0⟩, "", [], .up⟩ g) (by simpa [reaches, Store.generation] using member)

/-- A permutation that fixes all generations which may be judged unreachable takes none
    to another judgement. -/
theorem Ledger.reaches_rename {ledger : Ledger} {issued : Generation}
    (given : ∀ g ∈ ledger.unreachable, g < issued) {ρ : Equiv.Perm Generation}
    (fixed : ∀ g < issued, ρ g = g) (store : Store) :
    ledger.reaches (store.rename ρ) = ledger.reaches store := by
  have judged : ρ store.generation ∈ ledger.unreachable ↔
      store.generation ∈ ledger.unreachable := by
    constructor
    · intro member
      have same := ρ.injective (fixed _ (given _ member))
      rwa [same] at member
    · intro member
      rwa [fixed _ (given _ member)]
  have same : ledger.unreachable.contains (ρ store.generation) =
      ledger.unreachable.contains store.generation := Bool.eq_iff_iff.2 (by simpa using judged)
  rw [reaches, reaches, Store.generation_rename, same]

namespace Client

variable {client : Client ω} {first second : List (Store × Fate)}

/-- **Two orders** of the same fates agree, if values that were made before have no
    generation that was not given out. -/
theorem agreesSince_undergoAll (order : first.Perm second)
    (consistent : client.cache.regions.Consistent) (sound : client.ledger.Sound)
    (distinct : (first.map (·.1.id)).Nodup)
    (held : ∀ entry ∈ first, entry.2 = .stale ↔ ¬client.cache.holdsStore entry.1)
    (made : ∀ ρ : Generation → Generation, (∀ g < client.ledger.issued, ρ g = g) →
      ∀ (id : StoreId) (store : Store), client.cache.stores[id]? = some store →
        store.rename ρ = store) :
    AgreesSince client.ledger.issued (client.undergoAll first) (client.undergoAll second) := by
  obtain ⟨leaves, accrues, consistent₁⟩ := leaves_undergoAll consistent sound distinct held
  obtain ⟨leaves', accrues', consistent₂⟩ := leaves_undergoAll consistent sound
    ((order.map _).nodup_iff.1 distinct) fun entry among => held entry (order.symm.subset among)
  generalize client.undergoAll first = one at leaves accrues consistent₁ ⊢
  generalize client.undergoAll second = other at leaves' accrues' consistent₂ ⊢
  have born : (reborn first).Perm (reborn second) := (order.filter _).map _
  have ledger : other.ledger = one.ledger := by
    have issued : other.ledger.issued = one.ledger.issued := by
      rw [accrues.issued, accrues'.issued, born.length_eq]
    have unreachable : other.ledger.unreachable = one.ledger.unreachable := by
      refine Std.ExtTreeSet.ext_mem fun g => ?_
      rw [accrues.unreachable, accrues'.unreachable, (order.flatMap_right _).mem_iff]
    generalize other.ledger = ledger at issued unreachable
    cases ledger
    exact congrArg₂ Ledger.mk issued unreachable
  refine ⟨?_, ?_, ledger, ?_, ?_⟩
  · refine consistent₂.eq_of_get? consistent₁ fun id => Option.ext fun region => ?_
    simp only [leaves.regions, leaves'.regions, order.mem_iff]
  · obtain ⟨ρ, below, beyond, places⟩ :=
      exists_renaming born (distinct.sublist (reborn_sublist first)) client.ledger.issued
    have kept (id : StoreId) :
        client.cache.stores[id]?.map (Store.rename ρ) = client.cache.stores[id]? := by
      cases cached : client.cache.stores[id]? with
      | none => rfl
      | some store => exact congrArg some (made ρ below id store cached)
    refine ⟨ρ, below, accrues.issued ▸ beyond, fun id => ?_, fun id store _ => ?_⟩
    · by_cases named : ∃ entry ∈ first, entry.1.id = id
      · obtain ⟨⟨store, fate⟩, member, rfl⟩ := named
        have member' := order.subset member
        cases fate with
        | recovered =>
          rw [accrues.made member, accrues'.made member', ← places _ (mem_reborn member)]
          rfl
        | removed =>
          rw [leaves.removed member, leaves'.removed member']
          rfl
        | stale => rw [(leaves.stale member).2, (leaves'.stale member').2, kept]
        | retained => rw [(leaves.retained member).2, (leaves'.retained member').2, kept]
      · have unnamed : ∀ entry ∈ first, entry.1.id ≠ id := fun entry among same =>
          named ⟨entry, among, same⟩
        rw [leaves.others id unnamed,
          leaves'.others id fun entry among => unnamed entry (order.symm.subset among), kept]
    · have given : ∀ g ∈ one.ledger.unreachable, g < client.ledger.issued := fun g member =>
        sound.lt_of_mem ((accrues.unreachable g).1 member).1
      rw [ledger, Ledger.reaches_rename given below]
  · rw [accrues.metrics, accrues'.metrics]
    exact Metrics.foldl_record_perm (order.symm.flatMap_right _) _
  · exact accrues'.notices.trans
      (((order.symm.flatMap_right _).append_left _).trans accrues.notices.symm)

end Client

/-! ## Rounds of a checker -/

/-- A checker whose queue is apart from the counters and the notices too. -/
structure Checker.Aside (checker : Checker ω) : Prop where
  metrics (queue : WatchQueue) (client : Client ω) :
    (checker.setQueue queue client).metrics = client.metrics
  notices (queue : WatchQueue) (client : Client ω) :
    (checker.setQueue queue client).notices = client.notices

theorem Checker.aside_own : (own : Checker ω).Aside where
  metrics queue client := by
    obtain ⟨_, eq, _⟩ := client.withQueue_eq queue
    have same := congrArg Client.metrics eq
    exact same
  notices queue client := by
    obtain ⟨_, eq, _⟩ := client.withQueue_eq queue
    have same := congrArg Client.notices eq
    exact same

theorem Checker.aside_apart : Checker.apart.Aside where
  metrics _ _ := rfl
  notices _ _ := rfl

variable [Authority ω] [Prober ω]

namespace Checker

/-- A round that is on its own and takes the waiting stores in a given order: the tally,
    and the client when the stores that were kept are back in the queue. -/
def checkInOrder (checker : Checker ω) (drained : List Store) (client : Client ω) :
    Tally × Client ω :=
  let out := (Round.routine (fun _ => .done ()) { waiting := drained }).run
    (checker.setQueue {} client)
  (out.1.tally, checker.finish out.1 out.2)

/-- A checker beside which nothing is done takes them as they are drained from its queue. -/
theorem run_checkOnce_of_quiet {checker : Checker ω}
    (quiet : ∀ round, checker.others round = .done ()) (client : Client ω) :
    checker.checkOnce.run client =
      checker.checkInOrder (checker.order.arrange (checker.queue client).values) client := by
  rw [run_checkOnce, funext quiet]
  rfl

/-- Two rounds of a checker that began with the same client have come to the same: the
    same tally, the same stores waiting, and clients that agree. -/
structure SameRound (checker : Checker ω) (client : Client ω) (one other : Tally × Client ω) :
    Prop where
  tally : other.1 = one.1
  pending : checker.queue other.2 = checker.queue one.2
  left : Client.AgreesSince client.ledger.issued one.2 other.2

section
variable {checker : Checker ω} (lawful : checker.Lawful) (aside : checker.Aside)
  {client : Client ω} (installed : checker.Installed client)
  (keyed : (checker.queue client).Keyed) (forecast : Forecast ω)
  (known : forecast.known (checker.setQueue {} client).world)
  (sound : client.ledger.Sound) (consistent : client.cache.regions.Consistent)
include lawful installed keyed known

/-- A round on its own settles the stores as foretold, and does to the client what their
    fates do. -/
theorem accounts_checkInOrder {drained : List Store}
    (order : drained.Perm (checker.queue client).values) :
    let settled := forecast.fates client.cache drained
    let out := checker.checkInOrder drained client
    checker.Accounts client [] settled out.1 out.2 ∧
      ∃ queue world, out.2 = checker.setQueue queue
        (((checker.setQueue {} client).undergoAll settled).inWorld world) := by
  intro settled out
  obtain ⟨ended, accounts, world, left⟩ :=
    Round.run_foreseen forecast known (keyed.nodup_of_perm order)
  obtain ⟨-, progress⟩ := Round.run_routine
    (P := checker.Progress client drained []) (fun _ => .done ()) (fun _ _ h => h)
    (fun round client' h => .stepped h) _ _ (.begun order)
  rw [lawful.cache] at accounts left
  exact ⟨progress.accounts lawful installed keyed ended accounts, _, world,
    congrArg (checker.setQueue _) left⟩

include sound consistent

/-- What it leaves in the cache is what the fates leave. -/
theorem leaves_checkInOrder {drained : List Store}
    (order : drained.Perm (checker.queue client).values) :
    client.Leaves (forecast.fates client.cache drained)
      (checker.checkInOrder drained client).2 := by
  obtain ⟨-, queue, world, left⟩ :=
    accounts_checkInOrder lawful installed keyed forecast known order
  have consistent' : (checker.setQueue {} client).cache.regions.Consistent := by
    rwa [lawful.cache]
  have sound' : (checker.setQueue {} client).ledger.Sound := by rwa [lawful.ledger]
  have begun : client.Leaves [] (checker.setQueue {} client) :=
    .nil (lawful.cache _ _) (by rw [lawful.ledger])
  obtain ⟨leaves, -, -⟩ := Client.leaves_undergoAll consistent' sound'
    (forecast.map_id_fates client.cache drained ▸ keyed.nodup_of_perm order)
    fun entry member => by
      rw [lawful.cache]
      exact forecast.stale_iff_of_mem member
  rw [left]
  exact (begun.append leaves (List.forall_mem_nil _)).congr (lawful.cache _ _) (lawful.ledger _ _)

include aside

omit installed keyed known sound consistent in
/-- What waits is no matter to how two clients agree, nor is the world. -/
theorem agreesSince_setQueue {issued : Generation} {one other : Client ω}
    (h : one.AgreesSince issued other) (queue queue' : WatchQueue) (world world' : ω) :
    Client.AgreesSince issued (checker.setQueue queue (one.inWorld world))
      (checker.setQueue queue' (other.inWorld world')) := by
  obtain ⟨regions, stores, ledger, metrics, notices⟩ := h
  constructor
  all_goals
    simp only [lawful.cache, lawful.ledger, aside.metrics, aside.notices]
    assumption

/-- **Any order** of the stores that wait comes to the same. -/
theorem sameRound_of_perm
    (made : ∀ ρ : Generation → Generation, (∀ g < client.ledger.issued, ρ g = g) →
      ∀ (id : StoreId) (store : Store), client.cache.stores[id]? = some store →
        store.rename ρ = store) {first second : List Store}
    (order : first.Perm (checker.queue client).values)
    (order' : second.Perm (checker.queue client).values) :
    checker.SameRound client (checker.checkInOrder first client)
      (checker.checkInOrder second client) := by
  obtain ⟨accounts, queue, world, left⟩ :=
    accounts_checkInOrder lawful installed keyed forecast known order
  obtain ⟨accounts', queue', world', left'⟩ :=
    accounts_checkInOrder lawful installed keyed forecast known order'
  have settled : (forecast.fates client.cache first).Perm (forecast.fates client.cache second) :=
    (order.trans order'.symm).map _
  refine ⟨?_, ?_, ?_⟩
  · simp only [accounts.fates, accounts'.fates, Tally.of, (settled.map Prod.snd).count_eq]
  · refine congrArg WatchQueue.mk (Std.ExtTreeMap.ext_getElem? fun id => ?_)
    rw [accounts.pending, accounts'.pending]
    simp only [settled.mem_iff]
  · rw [left, left']
    refine agreesSince_setQueue lawful aside ?_ queue queue' world world'
    have cache := lawful.cache {} client
    have ledger := lawful.ledger {} client
    generalize checker.setQueue {} client = begun at cache ledger ⊢
    rw [← ledger]
    refine Client.agreesSince_undergoAll settled (cache ▸ consistent) (ledger ▸ sound)
      (forecast.map_id_fates client.cache first ▸ keyed.nodup_of_perm order)
      (fun entry member => ?_) (cache ▸ ledger ▸ made)
    rw [cache]
    exact forecast.stale_iff_of_mem member

end

end Checker

/-- **The order of a round.** At every moment of a run, let the authority and the probes
    answer about a store by its id alone.  Then each store that waits has the fate which
    is foretold when a round begins, and two rounds of a checker that take the
    waiting stores in different orders come to the same: the same tally, the same stores
    waiting, the same regions, the same counts, the same notices but for their order, and
    the same stores but for the names of the generations given out in the round.  In
    particular a round that the checker makes itself comes to what one in any other order
    does. -/
theorem Run.round_in_any_order (run : Run ω) (i : Nat) {checker : Checker ω}
    (lawful : checker.Lawful) (aside : checker.Aside)
    (installed : checker.Installed (run.moment i).client)
    (keyed : (checker.queue (run.moment i).client).Keyed) (forecast : Forecast ω)
    (known : forecast.known (checker.setQueue {} (run.moment i).client).world) :
    let client := (run.moment i).client
    (∀ drained : List Store, drained.Perm (checker.queue client).values →
      let settled := forecast.fates client.cache drained
      let out := checker.checkInOrder drained client
      checker.Accounts client [] settled out.1 out.2 ∧ client.Leaves settled out.2) ∧
    (∀ first second : List Store, first.Perm (checker.queue client).values →
      second.Perm (checker.queue client).values →
      checker.SameRound client (checker.checkInOrder first client)
        (checker.checkInOrder second client)) ∧
    ((∀ round, checker.others round = .done ()) →
      ∀ drained : List Store, drained.Perm (checker.queue client).values →
        checker.SameRound client (checker.checkOnce.run client)
          (checker.checkInOrder drained client)) := by
  intro client
  obtain ⟨census, lists⟩ := run.census i
  have sound : client.ledger.Sound := run.sound_moment i
  have consistent : client.cache.regions.Consistent := (run.wellFormed_moment i).toConsistent
  have same (first second : List Store) (order : first.Perm (checker.queue client).values)
      (order' : second.Perm (checker.queue client).values) :
      checker.SameRound client (checker.checkInOrder first client)
        (checker.checkInOrder second client) := by
    refine Checker.sameRound_of_perm lawful aside installed keyed forecast known sound consistent
      ?_ order order'
    intro ρ fixed id store cached
    exact Census.rename_eq (lists.issued ▸ fixed) (lists.stores cached)
  refine ⟨fun drained order => ⟨?_, ?_⟩, same, fun quiet drained order => ?_⟩
  · exact (Checker.accounts_checkInOrder lawful installed keyed forecast known order).1
  · exact Checker.leaves_checkInOrder lawful installed keyed forecast known sound consistent order
  · rw [Checker.run_checkOnce_of_quiet quiet]
    exact same _ _ (checker.order.perm _) order

/-! ## Four stores in any order -/

namespace Script

/-- What the script tells of a store, if no call about it meets a fault. -/
def tells (script : Script) (id : StoreId) : Except RouteError StoreDescriptor :=
  match script.stores[id]? with
  | some store => .ok store
  | none => .error (.authority (.storeNotFound id))

/-- A script without faults answers about a store by its id, and stays as it is. -/
def forecast (script : Script) (faultless : ∀ id, script.storeFaults.getD id [] = []) :
    Forecast Script where
  known other := other = script
  told := script.tells
  up id := script.answering.contains id
  call {world} id same := by
    subst same
    have answered : Authority.store id world = (.answer (world.tells id), world) := by
      change world.store id = _
      rw [store, faultless, tells]
      dsimp only
      cases world.stores[id]? <;> rfl
    have placed : (Authority.place (.store id) world).2 = world := rfl
    rw [placed, Backoffer.run_persist_eq, answered]
    exact ⟨rfl, rfl⟩
  probe store same := ⟨same ▸ rfl, same⟩

end Script

/-- The round of the four stores, one of each fate, comes to the same when it takes them
    the other way round. -/
theorem Run.fourFates_in_any_order :
    let client := (fourFates.moment 11).client
    let drained := (Checker.own.queue client).values
    (Checker.own.checkInOrder drained client).1 =
      { recovered := 1, removed := 1, stale := 1, retained := 1 } ∧
    Checker.own.SameRound client (Checker.own.checkInOrder drained client)
      (Checker.own.checkInOrder drained.reverse client) ∧
    Checker.own.SameRound client (Checker.own.checkOnce.run client)
      (Checker.own.checkInOrder drained.reverse client) := by
  intro client drained
  have checks := fourFates.checks ⟨{}, rfl⟩ 11
  have faultless : ∀ id, client.world.storeFaults.getD id [] = [] := by
    intro id
    have empty : client.world.storeFaults.isEmpty = true := by decide +kernel
    rw [Std.ExtTreeMap.isEmpty_iff.1 empty, Std.ExtTreeMap.getD_empty]
  have known : (Checker.own.setQueue {} client).world = client.world := by
    obtain ⟨_, eq, _⟩ := client.withQueue_eq {}
    have same := congrArg Client.world eq
    exact same
  obtain ⟨-, anyOrder, once⟩ := round_in_any_order fourFates 11 Checker.lawful_own Checker.aside_own
    checks.installed checks.keyed (Script.forecast client.world faultless) known
  exact ⟨by decide +kernel, anyOrder _ _ (.refl _) (List.reverse_perm _),
    once (fun _ => rfl) _ (List.reverse_perm _)⟩

end RegionRouting
