/-
  Region routing — no forwarded store is forgotten.

  A cached store value with a proxy is to be probed until its node answers on
  its own address.  For that it waits in the queue of the checker, unless a
  round has taken it off: then the round holds it, until it puts it back or has
  seen that it is cached no more.

  * `Round.held` are the stores that a round has taken and is not done with,
    and `Round.step_held` says which one a step lets go;
  * `Client.Watches`: every cached value with a proxy waits or is held, and is
    judged unreachable; `Client.Watches.updateStore` and its like say that what
    is done to a client keeps this;
  * `Scene.Watches.play`: so does an action, if updates alone hand stores over
    (`Scene.Tends`);
  * `Run.forwarded_watched`: so between two rounds each of these values waits.
-/
import RegionRouting.Proofs.Member
import RegionRouting.Proofs.StoreSwap

namespace RegionRouting

/-! ## The stores of a round -/

/-- The store that a stage is about, as it was taken off the queue. -/
def Stage.subject? : Stage → Option Store
  | .examine => none
  | .call store | .ask store _ | .evict store | .drop store | .probe store | .listen store
  | .install store _ => some store

namespace Round

/-- The stores that a round has taken off the queue, and has neither settled
    nor put back. -/
def held (round : Round) : List Store :=
  round.waiting ++ round.stage.subject?.toList ++ round.kept

/-- A store that is kept is held on. -/
theorem held_keep {round : Round} {store : Store} (h : round.stage.subject? = some store) :
    round.held.Perm (round.keep store).held := by
  have before : round.held = round.waiting ++ ([store] ++ round.kept) := by
    rw [held, h, List.append_assoc]
    rfl
  have after : (round.keep store).held = round.waiting ++ (round.kept ++ [store]) := by
    rw [held, List.append_assoc]
    rfl
  rw [before, after]
  exact List.Perm.append_left _ List.perm_append_comm

/-- A store that is settled leaves the round, and the others stay. -/
theorem held_settle {round : Round} {store : Store} (h : round.stage.subject? = some store)
    (count : Tally → Tally) : round.held.Perm (store :: (round.settle count).held) := by
  have before : round.held = round.waiting ++ store :: round.kept := by
    rw [held, h, List.append_assoc]
    rfl
  have after : (round.settle count).held = round.waiting ++ round.kept := by
    rw [held, List.append_assoc]
    rfl
  rw [before, after]
  exact List.perm_middle

variable {ω : Type} [Authority ω] [Prober ω]

/-- The value that a stage is about to install is of the same node as the store,
    and has no proxy. -/
def InstallsDirect (round : Round) : Prop :=
  ∀ store direct, round.stage = .install store direct →
    direct.id = store.id ∧ direct.proxy? = none

theorem installsDirect_step (round : Round) (client : Client ω) :
    (round.step client).2.1.InstallsDirect := by
  intro store direct installs
  obtain ⟨waiting, stage, kept, tally⟩ := round
  cases stage with
  | examine =>
    cases waiting with
    | nil => cases installs
    | cons first waiting =>
      simp only [step, examine] at installs
      split at installs <;> cases installs
  | ask asked budget =>
    simp only [step, ask] at installs
    split at installs
    · dsimp only at installs
      split at installs <;> cases installs
    · cases installs
    · split at installs <;> cases installs
  | listen asked =>
    simp only [step, listen] at installs
    split at installs
    · cases installs
      exact ⟨rfl, rfl⟩
    · cases installs
  | _ => cases installs

/-- A step holds the stores on, or lets one go: if that one has a proxy, it is
    cached no more. -/
theorem step_held {round : Round} (direct : round.InstallsDirect) (client : Client ω) :
    ∃ gone : Option Store, round.held.Perm (gone.toList ++ (round.step client).2.1.held) ∧
      ∀ store ∈ gone, store.proxy?.isSome →
        (round.step client).2.2.cache.stores[store.id]? ≠ some store := by
  have stale {store : Store} (h : client.cache.holdsStore store = false) :
      client.cache.stores[store.id]? ≠ some store := by
    intro cached
    simp [Cache.holdsStore, cached, Store.isSame] at h
  obtain ⟨waiting, stage, kept, tally⟩ := round
  cases stage with
  | examine =>
    cases waiting with
    | nil => exact ⟨none, .refl _, by rintro _ ⟨⟩⟩
    | cons store waiting =>
      simp only [step, examine]
      split
      · refine ⟨none, ?_, by rintro _ ⟨⟩⟩
        simpa [held, Stage.subject?] using List.perm_middle.symm
      · next other =>
        refine ⟨some store, .refl _, ?_⟩
        rintro _ ⟨⟩ -
        exact stale (by simpa using other)
  | call store => exact ⟨none, .refl _, by rintro _ ⟨⟩⟩
  | ask store budget =>
    refine ⟨none, ?_, by rintro _ ⟨⟩⟩
    simp only [step, ask]
    split
    · dsimp only
      split <;> exact .refl _
    · exact held_keep rfl
    · split
      · exact held_keep rfl
      · exact .refl _
  | evict store => exact ⟨none, .refl _, by rintro _ ⟨⟩⟩
  | drop store =>
    refine ⟨some store, held_settle rfl _, ?_⟩
    rintro _ ⟨⟩ - cached
    obtain ⟨_, _, _, dropped⟩ := client.invalidateStore_snd store.id
    rw [step, dropped] at cached
    simp at cached
  | probe store => exact ⟨none, .refl _, by rintro _ ⟨⟩⟩
  | listen store =>
    refine ⟨none, ?_, by rintro _ ⟨⟩⟩
    simp only [step, listen]
    split
    · exact .refl _
    · exact held_keep rfl
  | install store value =>
    refine ⟨some store, held_settle rfl _, ?_⟩
    rintro _ ⟨⟩ forwarded
    change (client.updateStore store value).2.cache.stores[store.id]? ≠ some store
    cases applied : (client.updateStore store value).1 with
    | false =>
      rw [client.updateStore_snd_of_refused store value applied]
      rw [Client.updateStore_fst] at applied
      exact stale applied
    | true =>
      -- the value in its place has no proxy, and so is another
      obtain ⟨same, reached⟩ := direct store value rfl
      rw [client.getElem?_updateStore_of_applied store value applied, if_pos same.symm]
      rintro ⟨⟩
      simp [reached] at forwarded

end Round

/-! ## What a client watches -/

variable {ω : Type}

/-- A cached value is judged unreachable, and waits under its own id; or nothing
    waits there, and it is among the values that are held. -/
structure Client.Watched (client : Client ω) (held : List Store) (id : StoreId) (store : Store) :
    Prop where
  own : store.id = id
  unreachable : client.ledger.reaches store = false
  waits : client.scheduler.queue.pending[id]? = some store ∨
    client.scheduler.queue.pending[id]? = none ∧ store ∈ held

/-- The scheduler is a checker, and every cached value with a proxy is watched. -/
structure Client.Watches (client : Client ω) (held : List Store) : Prop where
  watching : ∃ queue, client.scheduler = .watching queue
  queued {id : StoreId} {store : Store} : client.scheduler.queue.pending[id]? = some store →
    store.id = id
  watched {id : StoreId} {store : Store} : client.cache.stores[id]? = some store →
    store.proxy?.isSome → client.Watched held id store

namespace Client.Watches

variable {client client' : Client ω} {held held' : List Store} {census : Census}

/-- Values without a proxy may enter the cache, any value may leave it, and any
    may be judged unreachable. -/
theorem of_less (h : client.Watches held)
    (stores : ∀ {id : StoreId} {store : Store}, client'.cache.stores[id]? = some store →
      client.cache.stores[id]? = some store ∨ store.proxy? = none)
    (unreachable : ∀ {store : Store}, client.ledger.reaches store = false →
      client'.ledger.reaches store = false)
    (scheduler : client'.scheduler = client.scheduler) : client'.Watches held where
  watching := scheduler ▸ h.watching
  queued waiting := h.queued (scheduler ▸ waiting)
  watched {id store} cached forwarded := by
    rcases stores cached with before | reached
    · obtain ⟨own, judged, waits⟩ := h.watched before forwarded
      exact ⟨own, unreachable judged, scheduler ▸ waits⟩
    · simp [reached] at forwarded

/-- A cached value that is held has to be held on. -/
theorem hold (h : client.Watches held)
    (on : ∀ {store : Store}, client.cache.stores[store.id]? = some store → store.proxy?.isSome →
      store ∈ held → store ∈ held') : client.Watches held' where
  watching := h.watching
  queued := h.queued
  watched {id store} cached forwarded := by
    obtain ⟨own, judged, waits⟩ := h.watched cached forwarded
    refine ⟨own, judged, waits.imp_right ?_⟩
    rintro ⟨absent, member⟩
    exact ⟨absent, on (own.symm ▸ cached) forwarded member⟩

theorem grows (h : client.Watches held) (grown : client.Grows client') : client'.Watches held := by
  refine h.of_less grown.direct ?_ grown.scheduler
  intro store judged
  rwa [Ledger.reaches, grown.unreachable]

/-! ## Updates and invalidations -/

/-- A region may come or go. -/
theorem resolves {result : Except RouteError Region} (h : client.Watches held)
    (resolved : Lookup.Resolves client result client') : client'.Watches held := by
  cases resolved with
  | cached => exact h.of_less .inl id rfl
  | fetched grown =>
    rw [Client.announceEvicted_eq]
    exact (h.grows grown).of_less .inl id rfl
  | failed grown => exact h.grows grown

theorem invalidateLedBy (h : client.Watches held) (store : Store) :
    (client.invalidateLedBy store).2.Watches held := by
  obtain ⟨_, _, eq⟩ := client.invalidateLedBy_snd store
  rw [eq]
  exact h.of_less .inl id rfl

/-- An update of one id puts a value with a proxy into the queue, and judges no
    other value reachable that is cached then. -/
theorem updateStore (h : client.Watches held) (lists : census.Lists client) {old new : Store}
    (known : .store old ∈ census.values) (same : new.id = old.id) :
    (client.updateStore old new).2.Watches held := by
  cases applied : (client.updateStore old new).1 with
  | false =>
    rw [client.updateStore_snd_of_refused old new applied]
    exact h.of_less .inl id rfl
  | true =>
    have stores := client.getElem?_updateStore_of_applied old new applied
    have ledger := client.ledger_updateStore_of_applied old new applied
    obtain ⟨queue, watching⟩ := h.watching
    have scheduler : (client.updateStore old new).2.scheduler =
        .watching (if new.proxy?.isSome then queue.schedule new else queue) := by
      obtain ⟨_, eq⟩ := client.updateStore_snd_of_applied old new applied
      rw [eq, watching]
      dsimp only
      split <;> rfl
    have pending (id : StoreId) : (client.updateStore old new).2.scheduler.queue.pending[id]? =
        if new.proxy?.isSome ∧ id = new.id then some new
        else client.scheduler.queue.pending[id]? := by
      rw [scheduler, watching]
      by_cases forwarded : new.proxy?.isSome
      · simp only [forwarded, true_and, if_true]
        exact queue.getElem?_schedule new id
      · simp [forwarded, Scheduler.queue]
    refine ⟨⟨_, scheduler⟩, fun {id store} waiting => ?_, fun {id store} cached forwarded => ?_⟩
    · rw [pending] at waiting
      split at waiting
      · next here =>
        cases waiting
        exact here.2.symm
      · exact h.queued waiting
    · rw [stores] at cached
      split at cached
      · next here =>
        cases cached
        refine ⟨here.symm, ?_, .inl ?_⟩
        · rw [ledger, if_pos forwarded, Ledger.reaches_markUnreachable]
          simp [Store.isSame]
        · rw [pending, if_pos ⟨forwarded, here⟩]
      · next elsewhere =>
        obtain ⟨own, judged, waits⟩ := h.watched cached forwarded
        have apart : old.isSame store = false := by
          refine Bool.eq_false_iff.2 fun one => elsewhere ?_
          cases census.eq_of_generation known (lists.stores cached) (beq_iff_eq.1 one)
          exact own.symm.trans same.symm
        refine ⟨own, ?_, ?_⟩
        · rw [ledger]
          split <;> simp [apart, judged]
        · rw [pending, if_neg fun here => elsewhere here.2]
          exact waits

/-- An invalidation judges no other value reachable than the one it drops. -/
theorem invalidateStore (h : client.Watches held) (lists : census.Lists client) (id : StoreId) :
    (client.invalidateStore id).2.Watches held := by
  have ledger := client.ledger_invalidateStore id
  obtain ⟨_, _, _, eq⟩ := client.invalidateStore_snd id
  have scheduler : (client.invalidateStore id).2.scheduler = client.scheduler := by rw [eq]
  have stores : (client.invalidateStore id).2.cache.stores = client.cache.stores.erase id := by
    rw [eq]
  refine ⟨scheduler ▸ h.watching, fun waiting => h.queued (scheduler ▸ waiting),
    fun {other store} cached forwarded => ?_⟩
  rw [stores, Std.ExtTreeMap.getElem?_erase] at cached
  obtain ⟨elsewhere, cached⟩ := Option.ite_none_left_eq_some.1 cached
  obtain ⟨own, judged, waits⟩ := h.watched cached forwarded
  refine ⟨own, ?_, scheduler ▸ waits⟩
  rw [ledger]
  cases dropped : client.cache.stores[id]? with
  | none => exact judged
  | some value =>
    have apart : value.isSame store = false := by
      refine Bool.eq_false_iff.2 fun one => elsewhere (Std.LawfulEqCmp.compare_eq_iff_eq.2 ?_)
      cases census.eq_of_generation (lists.stores dropped) (lists.stores cached)
        (beq_iff_eq.1 one)
      exact (h.watched dropped forwarded).own.symm.trans own
    simp [apart, judged]

/-! ## Rounds -/

/-- A round holds what was drained from the queue, one value for each id. -/
theorem beginWith (h : client.Watches []) {drained : List Store}
    (order : drained.Perm client.scheduler.queue.values) :
    (Checker.own.beginWith drained client).2.Watches
        (Checker.own.beginWith drained client).1.held ∧
      ((Checker.own.beginWith drained client).1.held.map Store.id).Nodup := by
  obtain ⟨queue, watching⟩ := h.watching
  have held : (Checker.own.beginWith drained client).1.held = drained := by
    simp [Checker.beginWith, Round.held, Stage.subject?]
  have after : (Checker.own.beginWith drained client).2 =
      { client with scheduler := .watching {} } := by
    simp [Checker.beginWith, Checker.own, Client.withQueue, watching]
  rw [held, after]
  refine ⟨⟨⟨_, rfl⟩, ?_, fun {id store} cached forwarded => ?_⟩,
    (order.map Store.id).nodup_iff.2 (WatchQueue.nodup_values h.queued)⟩
  · intro id store waiting
    simp [Scheduler.queue] at waiting
  · obtain ⟨own, judged, waiting | ⟨-, ⟨⟩⟩⟩ := h.watched cached forwarded
    have taken : store ∈ drained := order.symm.subset (WatchQueue.mem_values.2 ⟨id, waiting⟩)
    exact ⟨own, judged, .inr ⟨by simp [Scheduler.queue], taken⟩⟩

/-- A round puts back what it has kept. -/
theorem finish {round : Round} (h : client.Watches (round.kept ++ held))
    (distinct : ((round.kept ++ held).map Store.id).Nodup) :
    (Checker.own.finish round client).Watches held := by
  obtain ⟨queue, watching⟩ := h.watching
  have after : Checker.own.finish round client =
      { client with scheduler := .watching (client.scheduler.queue.restore round.kept) } := by
    simp [Checker.finish, Checker.own, Client.withQueue, watching]
  have pending (id : StoreId) : (client.scheduler.queue.restore round.kept).pending[id]? =
      client.scheduler.queue.pending[id]?.or (round.kept.find? (·.id = id)) :=
    WatchQueue.getElem?_restore _ _ _
  rw [after]
  rw [List.map_append] at distinct
  refine ⟨⟨_, rfl⟩, fun {id store} waiting => ?_, fun {id store} cached forwarded => ?_⟩
  · rcases Option.or_eq_some_iff.1 ((pending id).symm.trans waiting) with before | ⟨-, found⟩
    · exact h.queued before
    · simpa using List.find?_some found
  · obtain ⟨rfl, judged, waiting | ⟨absent, member⟩⟩ := h.watched cached forwarded
    · exact ⟨rfl, judged, .inl ((pending store.id).trans (by rw [waiting]; rfl))⟩
    · have back := (pending store.id).trans (by rw [absent, Option.none_or])
      rcases List.mem_append.1 member with kept | other
      · exact ⟨rfl, judged, .inl
          (back.trans (find?_eq_some_of_nodup distinct.of_append_left kept))⟩
      · -- what another round holds has an id of its own
        have apart : round.kept.find? (·.id = store.id) = none := by
          refine List.find?_eq_none.2 fun value kept same => ?_
          have one : value.id = store.id := by simpa using same
          exact List.disjoint_of_nodup_append distinct (List.mem_map_of_mem kept)
            (one ▸ List.mem_map_of_mem other)
        exact ⟨rfl, judged, .inr ⟨back.trans apart, other⟩⟩

/-- A step of a round is an update of one id, or an invalidation, or no more
    than a change of the world. -/
theorem stepRound [Authority ω] [Prober ω] (h : client.Watches held) (lists : census.Lists client)
    {round : Round} (direct : round.InstallsDirect)
    (known : ∀ store ∈ round.stores, .store store ∈ census.values) :
    (round.step client).2.2.Watches held := by
  have moved := round.moves client
  generalize (round.step client).2 = next at moved ⊢
  obtain ⟨round', client'⟩ := next
  cases moved with
  | settles => exact h.of_less .inl id rfl
  | evicts => exact h.invalidateLedBy _
  | drops => exact h.invalidateStore lists _
  | makes => exact h.of_less .inl id rfl
  | @installs store value _ stage =>
    refine h.updateStore lists (known store ?_) (direct store value stage).1
    simp [Round.mem_stores, stage, Stage.stores]

end Client.Watches

/-! ## Scenes -/

namespace Scene

variable {scene : Scene ω} {census : Census}

/-- The stores that the rounds under way hold. -/
def held (scene : Scene ω) : List Store :=
  scene.rounds.flatMap Round.held

/-- No round is under way: each has come to its end, and has put back what it
    has kept. -/
def AtRest (scene : Scene ω) : Prop :=
  scene.held = []

/-- What may be done, so that updates alone hand stores over and judge them:
    an update keeps to one id, and a round begins when none is under way. -/
def Tends (scene : Scene ω) : Action ω → Prop
  | .updateStore old new => new.id = old.id
  | .beginRound _ => scene.AtRest
  | .judge .. | .schedule _ | .takeUp _ => False
  | _ => True

/-- Every cached value with a proxy is watched, and rounds hold one value for
    each id. -/
structure Watches (scene : Scene ω) : Prop where
  client : scene.client.Watches scene.held
  distinct : (scene.held.map Store.id).Nodup
  direct : ∀ round ∈ scene.rounds, round.InstallsDirect

namespace Watches

theorem of_client (h : scene.Watches) {scene' : Scene ω} (client : scene'.client.Watches scene.held)
    (rounds : scene'.rounds = scene.rounds) : scene'.Watches := by
  have held : scene'.held = scene.held := congrArg (List.flatMap Round.held) rounds
  exact ⟨held ▸ client, held ▸ h.distinct, rounds ▸ h.direct⟩

/-- Another round in the place of one, with the same stores but for one that it
    may let go. -/
theorem setRound (h : scene.Watches) {place : Nat} {round round' : Round} {gone : List Store}
    {client : Client ω} (running : scene.rounds[place]? = some round)
    (held : round.held.Perm (gone ++ round'.held)) (direct : round'.InstallsDirect)
    (watches : ∀ others, scene.held.Perm (gone ++ (round'.held ++ others)) →
      client.Watches (round'.held ++ others)) :
    Watches { scene with client, rounds := scene.rounds.set place round' } := by
  let others := (scene.rounds.eraseIdx place).flatMap Round.held
  have before : scene.held.Perm (gone ++ (round'.held ++ others)) := by
    have apart := flatMap_perm_of_getElem? Round.held running
    have instead := List.Perm.append_right others held
    rw [List.append_assoc] at instead
    exact apart.trans instead
  have after : ((scene.rounds.set place round').flatMap Round.held).Perm
      (round'.held ++ others) := flatMap_set_perm Round.held running round'
  refine ⟨(watches others before).hold fun _ _ member => after.symm.subset member, ?_, ?_⟩
  · have distinct := (before.map Store.id).nodup_iff.1 h.distinct
    rw [List.map_append] at distinct
    exact (after.map Store.id).nodup_iff.2 distinct.of_append_right
  · intro other among
    rcases List.mem_or_eq_of_mem_set among with old | rfl
    · exact h.direct other old
    · exact direct

theorem finishRound (h : scene.Watches) {place : Nat} {round : Round}
    (running : scene.rounds[place]? = some round) : (scene.finishRound place round).Watches := by
  unfold Scene.finishRound
  split
  · next finished =>
    have kept : round.held = round.kept := by
      obtain ⟨waiting, stage, kept, tally⟩ := round
      cases stage with
      | examine =>
        obtain rfl : waiting = [] := by simpa [Round.isOver] using finished
        rfl
      | _ => simp [Round.isOver] at finished
    have held : round.held.Perm (round.kept ++ ({ waiting := [] } : Round).held) := by
      rw [kept]
      simp [Round.held, Stage.subject?]
    refine h.setRound running held (by rintro _ _ ⟨⟩) fun others before => ?_
    have watches := h.client.hold fun _ _ member => before.subset member
    have distinct := (before.map Store.id).nodup_iff.1 h.distinct
    exact watches.finish distinct
  · exact h

variable [Authority ω] [Prober ω]

theorem stepRound (h : scene.Watches) (lists : census.ListsScene scene) {place : Nat}
    {round : Round} (running : scene.rounds[place]? = some round) :
    (scene.stepRound place round).Watches := by
  have among := List.mem_of_getElem? running
  obtain ⟨gone, held, letsGo⟩ := Round.step_held (h.direct round among) scene.client
  have stepped := h.client.stepRound lists.toLists (h.direct round among)
    fun store member => lists.rounds among member
  refine h.setRound running held (round.installsDirect_step scene.client) ?_
  intro others before
  refine stepped.hold fun {store} cached forwarded member => ?_
  rcases List.mem_append.1 (before.subset member) with left | on
  · exact absurd cached (letsGo store (Option.mem_toList.1 left) forwarded)
  · exact on

/-- **One action.** Whatever is done, every cached value with a proxy is watched
    afterwards. -/
theorem play (h : scene.Watches) (lists : census.ListsScene scene) {action : Action ω}
    (allows : scene.Allows action) (tends : scene.Tends action) : (scene.play action).Watches := by
  have stores := fun store member => lists.held (allows.stores store member)
  cases action with
  | regionByKey key budget =>
    exact h.of_client (h.client.resolves (Lookup.resolves_regionByKey key budget _)) rfl
  | regionById id budget =>
    exact h.of_client (h.client.resolves (Lookup.resolves_regionById id budget _)) rfl
  | storeById id budget =>
    exact h.of_client (h.client.grows (Lookup.grows_storeById id budget _)) rfl
  | updateRegion expected replacement =>
    rw [Scene.play, Operation.run_updateRegion]
    obtain ⟨_, _, eq⟩ := scene.client.updateRegion_snd expected replacement
    refine h.of_client ?_ rfl
    rw [Scene.withClient, eq]
    exact h.client.of_less .inl id rfl
  | updateStore old new =>
    exact h.of_client (h.client.updateStore lists.toLists (stores old (by simp [Action.stores]))
      tends) rfl
  | invalidateRegion region =>
    rw [Scene.play, Operation.run_invalidateRegion]
    obtain ⟨_, _, eq⟩ := scene.client.invalidateRegion_snd region
    refine h.of_client ?_ rfl
    rw [Scene.withClient, eq]
    exact h.client.of_less .inl id rfl
  | invalidateLedBy store => exact h.of_client (h.client.invalidateLedBy store) rfl
  | invalidateStore id => exact h.of_client (h.client.invalidateStore lists.toLists id) rfl
  | clear =>
    rw [Scene.play, Operation.run_clear]
    obtain ⟨_, _, eq⟩ := scene.client.clear_eq
    refine h.of_client ?_ rfl
    rw [Scene.withClient, eq]
    exact h.client.of_less .inl id rfl
  | forwardThrough store proxy =>
    refine h.of_client (h.client.of_less .inl (fun {other} judged => ?_) rfl) rfl
    change (store.forwardThrough proxy scene.client.ledger).2.reaches other = false
    unfold Store.forwardThrough
    dsimp only
    split
    · exact judged
    · rw [Ledger.reaches_markUnreachable]
      exact Bool.and_eq_false_iff.2 (.inr judged)
  | switchLeader region store =>
    refine h.of_client (h.client.of_less .inl (fun {other} judged => ?_) rfl) rfl
    change (region.switchLeader store scene.client.ledger).2.reaches other = false
    unfold Region.switchLeader
    split <;> exact judged
  | cachedRegion | cachedStore | makeRegion | makeStore | reconnect | elsewhere =>
    exact h.of_client (h.client.of_less .inl id rfl) rfl
  | judge | schedule | takeUp => exact tends.elim
  | beginRound drained =>
    have watches := h.client
    rw [show scene.held = [] from tends] at watches
    have held : (scene.play (.beginRound drained)).held =
        (Checker.own.beginWith drained scene.client).1.held := by
      change (scene.rounds ++ [_]).flatMap Round.held = _
      rw [List.flatMap_append, show scene.rounds.flatMap Round.held = [] from tends]
      exact List.append_nil _
    obtain ⟨begun, distinct⟩ := watches.beginWith (allows.drained drained rfl)
    refine ⟨held ▸ begun, held ▸ distinct, fun round among => ?_⟩
    rcases List.mem_append.1 among with before | last
    · exact h.direct round before
    · obtain rfl := List.mem_singleton.1 last
      rintro _ _ ⟨⟩
  | stepRound place =>
    rw [Scene.play]
    cases running : scene.rounds[place]? with
    | none => exact h
    | some round => exact h.stepRound lists running
  | finishRound place =>
    rw [Scene.play]
    cases running : scene.rounds[place]? with
    | none => exact h
    | some round => exact h.finishRound running

end Watches
end Scene

namespace Run

variable [Authority ω] [Prober ω] (run : Run ω)

/-- The scheduler is a checker.  Updates alone hand stores over to it and judge
    them, each of one id, and its rounds come one after the other. -/
structure Tended : Prop where
  watching : ∃ queue, run.scheduler = .watching queue
  tends {i : Nat} {action : Action ω} : run.actions[i]? = some action → (run.moment i).Tends action

variable {run}

theorem watches (h : run.Tended) : ∀ i, (run.moment i).Watches
  | 0 => by
    obtain ⟨queue, watching⟩ := h.watching
    have empty (id : StoreId) : queue.pending[id]? = none := by
      refine Option.eq_none_iff_forall_ne_some.2 fun store waiting => ?_
      have unused := run.unused
      rw [watching] at unused
      have member : store ∈ queue.values := WatchQueue.mem_values.2 ⟨id, waiting⟩
      simp [show queue.values = [] from unused] at member
    refine ⟨⟨⟨queue, watching⟩, fun {id store} waiting => ?_, fun {id store} cached => ?_⟩, ?_, ?_⟩
    · change run.scheduler.queue.pending[id]? = some store at waiting
      rw [watching] at waiting
      exact absurd ((empty id).symm.trans waiting) nofun
    · simp [moment, Scene.after, Scene.start] at cached
    · simp [moment, Scene.after, Scene.start, Scene.held]
    · simp [moment, Scene.after, Scene.start]
  | i + 1 => by
    cases played : run.actions[i]? with
    | none => exact run.moment_succ_of_none played ▸ watches h i
    | some action =>
      obtain ⟨census, lists⟩ := run.census i
      rw [run.moment_succ played]
      exact (watches h i).play lists (run.moment_allows played) (h.tends played)

/-- **Watching.** Between two rounds every cached store value with a proxy is
    judged unreachable, and it is the one that waits under its id, whatever was
    done to the cache and to that store while the rounds were under way. -/
theorem forwarded_watched (h : run.Tended) {i : Nat} (rest : (run.moment i).AtRest) {id : StoreId}
    {store : Store} (cached : (run.moment i).client.cache.stores[id]? = some store)
    (forwarded : store.proxy?.isSome) :
    (run.moment i).client.ledger.reaches store = false ∧
      (run.moment i).client.scheduler.queue.pending[store.id]? = some store := by
  obtain ⟨rfl, judged, waiting | ⟨-, held⟩⟩ := (watches h i).client.watched cached forwarded
  · exact ⟨judged, waiting⟩
  · rw [show (run.moment i).held = [] from rest] at held
    cases held

/-! ## A store put back during its probe -/

def near : Store := .direct nearNode 0
def far : Store := .direct farNode 1

/-- Two values of the near store, forwarded through the far one. -/
def nearFirst : Store := .forwarded nearNode 2 far
def nearSecond : Store := .forwarded nearNode 4 far

/-- The far store, forwarded through the near one. -/
def farFirst : Store := .forwarded farNode 3 near

/-- The far store is drained before the near one.  While the first value of the near one is
    probed, the second takes its place, and then the first is put back.  Neither store
    answers. -/
def putBackActions : List (Action Script) :=
  [.storeById ⟨1⟩ {}, .storeById ⟨2⟩ {}, .forwardThrough near far, .updateStore near nearFirst,
    .forwardThrough far near, .updateStore far farFirst, .beginRound [farFirst, nearFirst],
    .stepRound 0, .stepRound 0, .stepRound 0, .stepRound 0, .stepRound 0,
    .stepRound 0, .stepRound 0, .stepRound 0, .stepRound 0,
    .forwardThrough nearFirst far, .updateStore nearFirst nearSecond,
    .updateStore nearSecond nearFirst, .stepRound 0, .finishRound 0]

theorem putBack_allowed : ∀ i action, putBackActions[i]? = some action →
    ((Scene.start twoNodes (.watching {}) false).after (putBackActions.take i)).Allows action
  | 0, _, rfl | 1, _, rfl | 7, _, rfl | 8, _, rfl | 9, _, rfl | 10, _, rfl | 11, _, rfl
  | 12, _, rfl | 13, _, rfl | 14, _, rfl | 15, _, rfl | 19, _, rfl | 20, _, rfl =>
    ⟨by rintro _ ⟨⟩, by rintro _ ⟨⟩, by rintro _ ⟨⟩⟩
  | 2, _, rfl | 3, _, rfl | 4, _, rfl | 5, _, rfl | 16, _, rfl | 17, _, rfl | 18, _, rfl =>
    ⟨by rintro _ ⟨⟩, fun store presented => .given (by revert store; decide +kernel),
      by rintro _ ⟨⟩⟩
  | 6, _, rfl => by
    refine ⟨by rintro _ ⟨⟩, by rintro _ ⟨⟩, ?_⟩
    rintro _ ⟨⟩
    decide +kernel

def putBack : Run Script where
  world := twoNodes
  scheduler := .watching {}
  subscribed := false
  actions := putBackActions
  unused := by decide +kernel
  allowed := putBack_allowed

theorem putBack_tended : putBack.Tended where
  watching := ⟨_, rfl⟩
  tends {i action} played := by
    match i with
    | 0 | 1 | 2 | 4 | 7 | 8 | 9 | 10 | 11 | 12 | 13 | 14 | 15 | 16 | 19 | 20 =>
      cases played
      trivial
    | 3 | 5 | 17 | 18 =>
      cases played
      rfl
    | 6 =>
      cases played
      change (putBack.moment 6).held = []
      decide +kernel
    | _ + 21 => cases played

theorem putBack_watched : putBack.Tended ∧ (putBack.moment 21).AtRest ∧
    (putBack.moment 21).client.cache.stores[nearNode.id]? = some nearFirst ∧
    nearFirst.proxy?.isSome ∧ (putBack.moment 21).client.ledger.reaches nearFirst = false ∧
    (putBack.moment 21).client.scheduler.queue.pending[nearFirst.id]? = some nearFirst := by
  have rest : (putBack.moment 21).AtRest := by
    change (putBack.moment 21).held = []
    decide +kernel
  have cached : (putBack.moment 21).client.cache.stores[nearNode.id]? = some nearFirst := by
    decide +kernel
  exact ⟨putBack_tended, rest, cached, rfl, forwarded_watched putBack_tended rest cached rfl⟩

end Run
end RegionRouting
