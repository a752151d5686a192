/-
  Region routing — a round of health checks on its own.

  If nothing else is done during a round, then what becomes of a store tells what the
  cache holds of it afterwards.

  * `Client.Leaves` says what a round leaves in the cache, given the fates of its
    stores; `Client.Leaves.append`: one store after the other;
  * `Stage.Underway` is how far a single store has come, and `Round.Turns.underway`
    one step of it;
  * `Checker.accounts_run`: what becomes of a whole round;
  * `Run.rounds_accounted` puts this together with the account of a round, for every
    moment of a run at which one begins.
-/
import RegionRouting.Proofs.CheckerAtWork
import RegionRouting.Proofs.Judged
import RegionRouting.Proofs.LedRegions

namespace RegionRouting

variable {ω : Type}

/-! ## What a round leaves -/

/-- What the cache holds of the stores of a round, given their fates.  In the place of
    one that has recovered there is a value without a proxy, of the same node, and
    both are judged reachable.  One that was removed is gone, and with it the regions
    led from it, and these alone.  One that was stale was not cached in the first
    place, and one that was retained still is; what is under their ids is as it was,
    and so it is under all other ids. -/
structure Client.Leaves (client : Client ω) (settled : List (Store × Fate)) (client' : Client ω) :
    Prop where
  recovered {store : Store} : (store, .recovered) ∈ settled →
    client'.ledger.reaches store = true ∧ ∃ direct,
      client'.cache.stores[store.id]? = some direct ∧ direct.descriptor = store.descriptor ∧
        direct.proxy? = none ∧ client'.ledger.reaches direct = true
  removed {store : Store} : (store, .removed) ∈ settled → client'.cache.stores[store.id]? = none
  stale {store : Store} : (store, .stale) ∈ settled → client.cache.holdsStore store = false ∧
    client'.cache.stores[store.id]? = client.cache.stores[store.id]?
  retained {store : Store} : (store, .retained) ∈ settled →
    client'.cache.holdsStore store = true ∧
      client'.cache.stores[store.id]? = client.cache.stores[store.id]?
  regions (id : RegionId) (region : Region) : client'.cache.regions.get? id = some region ↔
    client.cache.regions.get? id = some region ∧
      ∀ store, (store, .removed) ∈ settled → region.leader.store ≠ store.id
  others (id : StoreId) : (∀ entry ∈ settled, entry.1.id ≠ id) →
    client'.cache.stores[id]? = client.cache.stores[id]?
  reaches (store : Store) : client.ledger.reaches store = true → client'.ledger.reaches store = true

theorem Cache.holdsStore_congr {cache cache' : Cache} {store : Store}
    (same : cache'.stores[store.id]? = cache.stores[store.id]?) :
    cache'.holdsStore store = cache.holdsStore store := by
  rw [holdsStore, holdsStore, same]

namespace Client.Leaves

variable {client client₁ client₂ : Client ω} {settled more : List (Store × Fate)} {store : Store}

theorem nil (cache : client₁.cache = client.cache)
    (judged : client₁.ledger.unreachable = client.ledger.unreachable) :
    client.Leaves [] client₁ where
  recovered member := by cases member
  removed member := by cases member
  stale member := by cases member
  retained member := by cases member
  regions id region := by simp [cache]
  others id _ := by rw [cache]
  reaches store reached := by rwa [Ledger.reaches, judged]

/-- **One after the other.** The stores of two rounds with different ids are out of
    each other's way. -/
theorem append (h : client.Leaves settled client₁) (h' : client₁.Leaves more client₂)
    (apart : ∀ entry ∈ settled, ∀ other ∈ more, other.1.id ≠ entry.1.id) :
    client.Leaves (settled ++ more) client₂ := by
  have before {store : Store} {fate : Fate} (member : (store, fate) ∈ settled) :
      client₂.cache.stores[store.id]? = client₁.cache.stores[store.id]? :=
    h'.others store.id fun other among => apart _ member other among
  have after {store : Store} {fate : Fate} (member : (store, fate) ∈ more) :
      client₁.cache.stores[store.id]? = client.cache.stores[store.id]? :=
    h.others store.id fun entry among => (apart entry among _ member).symm
  refine ⟨fun member => ?_, fun member => ?_, fun member => ?_, fun member => ?_,
    fun id region => ?_, fun id unnamed => ?_, fun store reached => ?_⟩
  · rcases List.mem_append.1 member with first | second
    · obtain ⟨reached, direct, cached, node, proxy, answers⟩ := h.recovered first
      exact ⟨h'.reaches _ reached, direct, (before first).trans cached, node, proxy,
        h'.reaches _ answers⟩
    · exact h'.recovered second
  · rcases List.mem_append.1 member with first | second
    · exact (before first).trans (h.removed first)
    · exact h'.removed second
  · rcases List.mem_append.1 member with first | second
    · exact ⟨(h.stale first).1, (before first).trans (h.stale first).2⟩
    · obtain ⟨other, same⟩ := h'.stale second
      exact ⟨(Cache.holdsStore_congr (after second)).symm.trans other, same.trans (after second)⟩
  · rcases List.mem_append.1 member with first | second
    · obtain ⟨held, same⟩ := h.retained first
      exact ⟨(Cache.holdsStore_congr (before first)).trans held, (before first).trans same⟩
    · obtain ⟨held, same⟩ := h'.retained second
      exact ⟨held, same.trans (after second)⟩
  · rw [h'.regions, h.regions, and_assoc]
    refine and_congr_right fun _ => ?_
    simp only [List.mem_append, or_imp, forall_and]
  · rw [List.forall_mem_append] at unnamed
    exact (h'.others id unnamed.2).trans (h.others id unnamed.1)
  · exact h'.reaches store (h.reaches store reached)

/-- The queue of a checker is no matter. -/
theorem congr (h : client.Leaves settled client₁) (cache : client₂.cache = client₁.cache)
    (ledger : client₂.ledger = client₁.ledger) : client.Leaves settled client₂ := by
  have same := h.append (nil cache (by rw [ledger])) fun _ _ _ member => by cases member
  rwa [List.append_nil] at same

/-! ### One store -/

theorem of_stale (other : client.cache.holdsStore store = false) :
    client.Leaves [(store, .stale)] client where
  recovered member := by simp at member
  removed member := by simp at member
  stale member := by
    obtain rfl : _ = store := by simpa using member
    exact ⟨other, rfl⟩
  retained member := by simp at member
  regions id region := by simp
  others id _ := rfl
  reaches _ := id

theorem of_retained (held : client.cache.holdsStore store = true)
    (cache : client₁.cache = client.cache)
    (judged : client₁.ledger.unreachable = client.ledger.unreachable) :
    client.Leaves [(store, .retained)] client₁ where
  recovered member := by simp at member
  removed member := by simp at member
  stale member := by simp at member
  retained member := by
    obtain rfl : _ = store := by simpa using member
    exact ⟨cache ▸ held, by rw [cache]⟩
  regions id region := by simp [cache]
  others id _ := by rw [cache]
  reaches store reached := by rwa [Ledger.reaches, judged]

/-- A store is dropped after the regions that were led from it. -/
theorem of_removed (consistent : client.cache.regions.Consistent)
    (stores : client₁.cache.stores = client.cache.stores)
    (regions : client₁.cache.regions = (client.cache.regions.evict (client.ledBy store.id)).2)
    (judged : client₁.ledger.unreachable = client.ledger.unreachable) :
    client.Leaves [(store, .removed)] (client₁.invalidateStore store.id).2 := by
  have ledger := client₁.ledger_invalidateStore store.id
  obtain ⟨_, _, _, dropped⟩ := client₁.invalidateStore_snd store.id
  have left (id : StoreId) : (client₁.invalidateStore store.id).2.cache.stores[id]? =
      if store.id = id then none else client.cache.stores[id]? := by
    rw [dropped, ← stores]
    simp [Std.ExtTreeMap.getElem?_erase]
  refine ⟨fun member => ?_, fun member => ?_, fun member => ?_, fun member => ?_,
    fun id region => ?_, fun id unnamed => ?_, fun other reached => ?_⟩
  · simp at member
  · obtain rfl : _ = store := by simpa using member
    rw [left, if_pos rfl]
  · simp at member
  · simp at member
  · have evicted : (client₁.invalidateStore store.id).2.cache.regions =
        (client.cache.regions.evict (client.ledBy store.id)).2 := by rw [dropped, ← regions]
    rw [evicted, get?_evict_ledBy consistent]
    simp
  · rw [left, if_neg (unnamed _ (List.mem_singleton_self _))]
  · rw [ledger]
    have before : client₁.ledger.reaches other = true := by rwa [Ledger.reaches, judged]
    cases client₁.cache.stores[store.id]? with
    | none => exact before
    | some value => simp [before]

/-- A store is replaced by a value without a proxy. -/
theorem of_recovered {direct : Store} (held : client.cache.holdsStore store = true)
    (cache : client₁.cache = client.cache)
    (judged : client₁.ledger.unreachable = client.ledger.unreachable)
    (node : direct.descriptor = store.descriptor) (proxy : direct.proxy? = none)
    (reached : client₁.ledger.reaches direct = true) :
    client.Leaves [(store, .recovered)] (client₁.updateStore store direct).2 := by
  have applied : (client₁.updateStore store direct).1 = true := by
    rw [Client.updateStore_fst, cache, held]
  have same : direct.id = store.id := congrArg StoreDescriptor.id node
  have stores := client₁.getElem?_updateStore_of_applied store direct applied
  have ledger := client₁.ledger_updateStore_of_applied store direct applied
  rw [proxy, if_neg nofun] at ledger
  rw [same, cache] at stores
  refine ⟨fun member => ?_, fun member => ?_, fun member => ?_, fun member => ?_,
    fun id region => ?_, fun id unnamed => ?_, fun other before => ?_⟩
  · obtain rfl : _ = store := by simpa using member
    rw [ledger]
    refine ⟨by simp [Store.isSame], direct, ?_, node, proxy, by simp [reached]⟩
    rw [stores, if_pos rfl]
  · simp at member
  · simp at member
  · simp at member
  · rw [Client.regions_updateStore, cache]
    simp
  · rw [stores, if_neg (unnamed _ (List.mem_singleton_self _)).symm]
  · have before : client₁.ledger.reaches other = true := by rwa [Ledger.reaches, judged]
    rw [ledger]
    simp [before]

end Client.Leaves

/-! ## One store under way -/

/-- How far a round has come with a store, and what it has done to the client since it
    took that: nothing yet; it has dropped the regions led from the store; or it has
    made the value to install. -/
inductive Stage.Underway (before : Client ω) : Stage → Client ω → Prop
  | rests : Underway before .examine before
  | inspects {stage : Stage} {store : Store} {client : Client ω}
      (asks : stage.inspects? = some store) (held : before.cache.holdsStore store = true)
      (cache : client.cache = before.cache)
      (judged : client.ledger.unreachable = before.ledger.unreachable) :
      Underway before stage client
  | drops {store : Store} {client : Client ω}
      (stores : client.cache.stores = before.cache.stores)
      (regions : client.cache.regions = (before.cache.regions.evict (before.ledBy store.id)).2)
      (judged : client.ledger.unreachable = before.ledger.unreachable) :
      Underway before (.drop store) client
  | installs {store direct : Store} {client : Client ω}
      (held : before.cache.holdsStore store = true) (cache : client.cache = before.cache)
      (judged : client.ledger.unreachable = before.ledger.unreachable)
      (node : direct.descriptor = store.descriptor) (proxy : direct.proxy? = none)
      (made : direct.generation < client.ledger.issued)
      (reached : client.ledger.reaches direct = true) :
      Underway before (.install store direct) client

/-- As long as a store is asked after, it is cached as it was. -/
theorem Stage.Underway.of_inspects {before client : Client ω} {stage : Stage} {store : Store}
    (h : stage.Underway before client) (asks : stage.inspects? = some store) :
    before.cache.holdsStore store = true ∧ client.cache = before.cache ∧
      client.ledger.unreachable = before.ledger.unreachable := by
  cases h with
  | inspects asks' held cache judged =>
    cases asks'.symm.trans asks
    exact ⟨held, cache, judged⟩
  | rests | drops | installs => cases asks

/-- Before a round takes the next store, nothing is done that is not finished. -/
theorem Stage.Underway.eq_of_examine {before client : Client ω}
    (h : Stage.examine.Underway before client) : client = before := by
  cases h with
  | inspects asks => cases asks
  | rests => rfl

/-- When a round is over, nothing is done that is not finished. -/
theorem Stage.Underway.eq_of_isOver {before client : Client ω} {round : Round}
    (h : round.stage.Underway before client) (ended : round.isOver) : client = before := by
  obtain ⟨waiting, stage, kept, tally⟩ := round
  cases stage with
  | examine => exact h.eq_of_examine
  | _ => cases ended

namespace Round

variable {round round' : Round} {before client client' : Client ω}
  {more : Option (Store × Fate)} {settled : List (Store × Fate)} {drained : List Store}

/-- **One step.** A store that is settled leaves the cache as its fate says, and
    another one may be taken then; until then it is under way. -/
theorem Turns.underway (turn : round.Turns client more round' client')
    (h : round.stage.Underway before client) (sound : client.ledger.Sound)
    (consistent : before.cache.regions.Consistent) :
    ∃ before', before.Leaves more.toList before' ∧ round'.stage.Underway before' client' ∧
      before'.cache.regions.Consistent := by
  have rests (client : Client ω) : client.Leaves [] client := .nil rfl rfl
  cases turn with
  | idles => exact ⟨before, rests before, h, consistent⟩
  | takes stage first held =>
    rw [stage] at h
    obtain rfl := h.eq_of_examine
    exact ⟨_, rests _, .inspects rfl held rfl rfl, consistent⟩
  | misses stage first other =>
    rw [stage] at h
    obtain rfl := h.eq_of_examine
    exact ⟨_, .of_stale (Bool.eq_false_iff.2 other), .rests, consistent⟩
  | inspects stage after =>
    obtain ⟨held, cache, judged⟩ := h.of_inspects stage
    exact ⟨before, rests before, .inspects after held cache judged, consistent⟩
  | @retains store world stage =>
    obtain ⟨held, cache, judged⟩ := h.of_inspects stage
    refine ⟨{ client with world }, .of_retained held cache judged, .rests, ?_⟩
    change client.cache.regions.Consistent
    rwa [cache]
  | @evicts store stage =>
    rw [stage] at h
    obtain ⟨held, cache, judged⟩ := h.of_inspects rfl
    obtain ⟨_, _, evicted⟩ := client.invalidateLedBy_snd store
    have led : client.ledBy store.id = before.ledBy store.id := by
      rw [Client.ledBy, cache]
      rfl
    refine ⟨before, rests before, ?_, consistent⟩
    rw [evicted, cache, if_pos held, led]
    exact .drops rfl rfl judged
  | @removes store stage =>
    rw [stage] at h
    cases h with
    | inspects asks => cases asks
    | drops stores regions judged =>
      refine ⟨_, .of_removed consistent stores regions judged, .rests, ?_⟩
      obtain ⟨_, _, _, dropped⟩ := client.invalidateStore_snd store.id
      rw [dropped]
      change client.cache.regions.Consistent
      rw [regions]
      exact consistent.evict _
  | @answers store _ stage =>
    rw [stage] at h
    obtain ⟨held, cache, judged⟩ := h.of_inspects rfl
    -- a value that is made now has not been judged
    have fresh : client.ledger.reaches (.direct store.descriptor client.ledger.issued) = true := by
      refine Bool.of_not_eq_false fun unreachable => ?_
      exact Nat.lt_irrefl _ (sound _ unreachable)
    exact ⟨before, rests before,
      .installs held cache judged rfl rfl (Nat.lt_succ_self _) fresh, consistent⟩
  | recovers stage applied =>
    rw [stage] at h
    cases h with
    | inspects asks => cases asks
    | installs held cache judged node proxy made reached =>
      refine ⟨_, .of_recovered held cache judged node proxy reached, .rests, ?_⟩
      rw [Client.regions_updateStore, cache]
      exact consistent
  | loses stage refused =>
    rw [stage] at h
    cases h with
    | inspects asks => cases asks
    | installs held cache =>
      rw [Client.updateStore_fst, cache, held] at refused
      cases refused

/-- A step judges no value unreachable. -/
theorem Turns.sound (turn : round.Turns client more round' client')
    (h : round.stage.Underway before client) (sound : client.ledger.Sound) :
    client'.ledger.Sound := by
  cases turn with
  | idles | takes | misses | inspects | retains => exact sound
  | evicts =>
    obtain ⟨_, _, evicted⟩ := client.invalidateLedBy_snd _
    rw [evicted]
    exact sound
  | removes => exact sound.invalidateStore _
  | answers => exact sound.issue
  | recovers stage | loses stage =>
    rw [stage] at h
    cases h with
    | inspects asks => cases asks
    | installs _ _ _ _ _ made => exact sound.updateStore _ made

/-! ## A round on its own -/

/-- A round that began with some stores, and was on its own since: it has an account,
    and has left the client as the fates of the stores say, but for what it has done
    with the one under way. -/
def Alone (client : Client ω) (drained : List Store) (round : Round) (client' : Client ω) : Prop :=
  ∃ settled before, round.Accounts drained settled ∧ client.Leaves settled before ∧
    round.stage.Underway before client' ∧ before.cache.regions.Consistent ∧ client'.ledger.Sound

/-- A store that was settled has an id of its own. -/
theorem Accounts.apart {entry : Store × Fate}
    (h : round.Accounts drained (settled ++ [entry])) (distinct : (drained.map Store.id).Nodup) :
    ∀ other ∈ settled, entry.1.id ≠ other.1.id := by
  rw [h.drained, List.map_append, List.map_append, List.map_append] at distinct
  have apart := List.disjoint_of_nodup_append distinct.of_append_left
  intro other among same
  refine apart (List.mem_map_of_mem (List.mem_map_of_mem among)) ?_
  simp [← same]

variable [Authority ω] [Prober ω]

theorem Alone.step (h : Alone client drained round client')
    (distinct : (drained.map Store.id).Nodup) :
    Alone client drained (round.step client').2.1 (round.step client').2.2 := by
  obtain ⟨settled, before, accounts, leaves, underway, consistent, sound⟩ := h
  obtain ⟨more, turn⟩ := round.turns client'
  obtain ⟨before', left, underway', consistent'⟩ := turn.underway underway sound consistent
  have accounts' := accounts.turn turn
  refine ⟨settled ++ more.toList, before', accounts', leaves.append left ?_, underway',
    consistent', turn.sound underway sound⟩
  cases more with
  | none => exact fun _ _ _ member => by cases member
  | some entry =>
    intro other among entry' member
    obtain rfl := List.mem_singleton.1 member
    exact accounts'.apart distinct other among

theorem run_routine_of_going (others : Round → Operation ω Unit) (going : round.isOver = false)
    (client : Client ω) :
    let next := (round.step ((others round).run client).2).2
    (round.routine others).run client = (next.1.routine others).run next.2 := by
  rw [routine, dif_neg (Bool.eq_false_iff.1 going)]
  refine (Routine.run_bind (others round) _ client).trans ?_
  split <;> rfl

/-- A round comes to its end, and what every step of it keeps holds then, if that is
    also kept by whatever is done before each. -/
theorem run_routine {P : Round → Client ω → Prop} (others : Round → Operation ω Unit)
    (beside : ∀ round client, P round client → P round ((others round).run client).2)
    (step : ∀ round client, P round client → P (round.step client).2.1 (round.step client).2.2)
    (round : Round) (client : Client ω) (start : P round client) :
    let out := (round.routine others).run client
    out.1.isOver = true ∧ P out.1 out.2 := by
  induction work : round.work using Nat.strongRecOn generalizing round client with
  | _ work ih =>
    cases ended : round.isOver with
    | true =>
      rw [routine, dif_pos ended]
      exact ⟨ended, start⟩
    | false =>
      rw [run_routine_of_going others ended]
      refine ih _ ?_ _ _ (step round _ (beside round client start)) rfl
      rw [← work]
      exact work_step_lt ended _

end Round

namespace Checker

variable [Authority ω] [Prober ω] {checker : Checker ω} {client : Client ω} {drained : List Store}
  {others : Round → Operation ω Unit}

/-- Whatever the rest of the program does before the steps of a round hands stores over
    to the checker, and does nothing else to its queue. -/
def HandsBeside (checker : Checker ω) (others : Round → Operation ω Unit) : Prop :=
  ∀ round client, checker.Installed client →
    ∃ more, checker.Hands client more ((others round).run client).2

/-- **Among others** a round comes to its end, and is in progress until then. -/
theorem progress_run (lawful : checker.Lawful) (installed : checker.Installed client)
    (beside : checker.HandsBeside others) (order : drained.Perm (checker.queue client).values) :
    let out := (Round.routine others { waiting := drained }).run (checker.setQueue {} client)
    out.1.isOver = true ∧ ∃ handed, checker.Progress client drained handed out.1 out.2 := by
  refine Round.run_routine others
    (P := fun round client' => ∃ handed, checker.Progress client drained handed round client')
    (fun round client' => ?_) (fun round client' => ?_) _ _ ⟨[], .begun order⟩
  · rintro ⟨handed, progress⟩
    obtain ⟨more, hands⟩ := beside round client' (progress.kept lawful installed).installed
    exact ⟨handed ++ more, progress.beside hands⟩
  · rintro ⟨handed, progress⟩
    exact ⟨handed, progress.stepped⟩

/-- **On its own** a round comes to its end.  Its account is in order then, and the
    cache is left as the fates say. -/
theorem accounts_run (lawful : checker.Lawful) (installed : checker.Installed client)
    (keyed : (checker.queue client).Keyed) (sound : client.ledger.Sound)
    (consistent : client.cache.regions.Consistent) (quiet : ∀ round, others round = .done ())
    (order : drained.Perm (checker.queue client).values) :
    let out := (Round.routine others { waiting := drained }).run (checker.setQueue {} client)
    ∃ settled, checker.Accounts client [] settled out.1.tally (checker.finish out.1 out.2) ∧
      client.Leaves settled (checker.finish out.1 out.2) := by
  intro out
  have distinct : (drained.map Store.id).Nodup := keyed.nodup_of_perm order
  have begun : Round.Alone client drained { waiting := drained } (checker.setQueue {} client) := by
    have leaves : client.Leaves [] (checker.setQueue {} client) :=
      .nil (lawful.cache _ _) (by rw [lawful.ledger])
    refine ⟨[], _, ⟨rfl, rfl, rfl⟩, leaves, .rests, ?_, ?_⟩
    · rw [lawful.cache]
      exact consistent
    · rw [lawful.ledger]
      exact sound
  obtain ⟨ended, alone, progress⟩ := Round.run_routine others
    (P := fun round client' => Round.Alone client drained round client' ∧
      checker.Progress client drained [] round client')
    (fun round client' h => by rwa [quiet])
    (fun round client' h => ⟨h.1.step distinct, .stepped h.2⟩) _ _ ⟨begun, .begun order⟩
  obtain ⟨settled, before, accounts, leaves, underway, -⟩ := alone
  have left : client.Leaves settled out.2 := underway.eq_of_isOver ended ▸ leaves
  exact ⟨settled, progress.accounts lawful installed keyed ended accounts,
    left.congr (lawful.cache _ _) (lawful.ledger _ _)⟩

theorem run_checkOnce (checker : Checker ω) (client : Client ω) :
    let out := ((checker.begin client).1.routine checker.others).run (checker.begin client).2
    checker.checkOnce.run client = (out.1.tally, checker.finish out.1 out.2) := by
  rw [checkOnce, Routine.run_bind, Routine.run_perform, Routine.run_bind]
  rfl

end Checker

/-- **Rounds.** At every moment of a run, let a checker begin a round.  Whatever is done
    to the cache meanwhile, and whichever stores are handed over, once the round is
    over its account is in order: each store that has waited is counted once, and
    what waits then is what was handed over, and what was retained.  The round comes to
    its end among all that does no more than this.  If nothing is done meanwhile,
    the cache is left as the fates of the stores say, in whatever order they are taken;
    so it is with a checker that checks them all once. -/
theorem Run.rounds_accounted [Authority ω] [Prober ω] (run : Run ω) (i : Nat)
    {checker : Checker ω} (lawful : checker.Lawful)
    (installed : checker.Installed (run.moment i).client)
    (keyed : (checker.queue (run.moment i).client).Keyed) :
    let client := (run.moment i).client
    (∀ drained handed round client', checker.Progress client drained handed round client' →
      round.isOver = true → ∃ settled,
        checker.Accounts client handed settled round.tally (checker.finish round client')) ∧
    (∀ others drained, checker.HandsBeside others → drained.Perm (checker.queue client).values →
      let out := (Round.routine others { waiting := drained }).run (checker.setQueue {} client)
      out.1.isOver = true ∧ ∃ handed, checker.Progress client drained handed out.1 out.2) ∧
    (∀ drained : List Store, drained.Perm (checker.queue client).values →
      let out := (Round.routine (fun _ => .done ()) { waiting := drained }).run
        (checker.setQueue {} client)
      ∃ settled, checker.Accounts client [] settled out.1.tally (checker.finish out.1 out.2) ∧
        client.Leaves settled (checker.finish out.1 out.2)) ∧
    ((∀ round, checker.others round = .done ()) →
      let out := checker.checkOnce.run client
      ∃ settled, checker.Accounts client [] settled out.1 out.2 ∧ client.Leaves settled out.2) := by
  intro client
  have sound : client.ledger.Sound := run.sound_moment i
  have consistent : client.cache.regions.Consistent := (run.wellFormed_moment i).toConsistent
  refine ⟨fun drained handed round client' progress ended => ?_,
    fun others drained beside order => ?_, fun drained order => ?_, fun quiet => ?_⟩
  · obtain ⟨settled, accounts⟩ := progress.settled
    exact ⟨settled, progress.accounts lawful installed keyed ended accounts⟩
  · exact Checker.progress_run lawful installed beside order
  · exact Checker.accounts_run lawful installed keyed sound consistent (fun _ => rfl) order
  · intro out
    have out_eq : out = _ := checker.run_checkOnce client
    rw [out_eq]
    exact Checker.accounts_run lawful installed keyed sound consistent quiet
      (checker.order.perm _)

/-! ## One store of each fate -/

namespace Run

/-- A node without labels. -/
def plain (id : UInt64) : StoreDescriptor :=
  { id := ⟨id⟩, address := "node", labels := [], state := .up }

/-- Four nodes; a region is led from the second one. -/
def fourNodes : Script where
  regions := [({
      id := ⟨1⟩, range := ⟨[], []⟩, epoch := {}, peers := [⟨⟨1⟩, ⟨2⟩, .voter⟩] },
    ⟨⟨1⟩, ⟨2⟩, .voter⟩)]
  stores := (∅ : Std.ExtTreeMap StoreId StoreDescriptor)
    |>.insert ⟨1⟩ (plain 1) |>.insert ⟨2⟩ (plain 2) |>.insert ⟨3⟩ (plain 3) |>.insert ⟨4⟩ (plain 4)

/-- Four stores wait.  Then the first one answers, the second one is removed from the
    cluster, and the third one is dropped from the cache. -/
def fourFatesActions : List (Action Script) :=
  [.regionByKey [7] {}, .storeById ⟨1⟩ {}, .storeById ⟨2⟩ {}, .storeById ⟨3⟩ {}, .storeById ⟨4⟩ {},
    .schedule (.direct (plain 1) 2), .schedule (.direct (plain 2) 0),
    .schedule (.direct (plain 3) 3), .schedule (.direct (plain 4) 4),
    .elsewhere fun script =>
      (script.setAnswering ⟨1⟩ true).setStore ⟨2⟩ { plain 2 with state := .tombstone },
    .invalidateStore ⟨3⟩]

theorem fourFates_allowed : ∀ i action, fourFatesActions[i]? = some action →
    ((Scene.start fourNodes (.watching {}) true).after (fourFatesActions.take i)).Allows action
  | 0, _, rfl | 1, _, rfl | 2, _, rfl | 3, _, rfl | 4, _, rfl | 9, _, rfl | 10, _, rfl =>
    ⟨by rintro _ ⟨⟩, by rintro _ ⟨⟩, by rintro _ ⟨⟩⟩
  | 5, _, rfl | 6, _, rfl | 7, _, rfl | 8, _, rfl =>
    ⟨by rintro _ ⟨⟩, fun store presented => .given (by revert store; decide +kernel),
      by rintro _ ⟨⟩⟩

def fourFates : Run Script where
  world := fourNodes
  scheduler := .watching {}
  subscribed := true
  actions := fourFatesActions
  unused := Scheduler.waiting_watching
  allowed := fourFates_allowed

/-- Each of the four stores has another fate, also if the third one is handed over again
    before each step. -/
theorem fourFates_accounted :
    let client := (fourFates.moment 11).client
    let out := Checker.own.checkOnce.run client
    let again (_ : Round) : Operation Script Unit :=
      .change (Checker.own.schedule (.direct (plain 3) 3))
    let busy := (Round.routine again (Checker.own.begin client).1).run
      (Checker.own.begin client).2
    (out.1 = { recovered := 1, removed := 1, stale := 1, retained := 1 } ∧
      ∃ settled, Checker.own.Accounts client [] settled out.1 out.2 ∧
        client.Leaves settled out.2) ∧
    busy.1.tally = out.1 ∧ ∃ handed settled,
      Checker.own.Accounts client handed settled busy.1.tally
        (Checker.own.finish busy.1 busy.2) := by
  intro client out again busy
  have checks := fourFates.checks ⟨{}, rfl⟩ 11
  obtain ⟨meanwhile, among, -, once⟩ :=
    rounds_accounted fourFates 11 Checker.lawful_own checks.installed checks.keyed
  have beside : Checker.own.HandsBeside again := fun _ client installed =>
    ⟨_, Checker.lawful_own.hands_schedule installed _⟩
  obtain ⟨ended, handed, progress⟩ := among again _ beside (.refl _)
  exact ⟨⟨by decide +kernel, once fun _ => rfl⟩, by decide +kernel, handed,
    meanwhile _ _ _ _ progress ended⟩

end Run
end RegionRouting
