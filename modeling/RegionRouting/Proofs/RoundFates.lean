/-
  Region routing — a round whose answers are foretold.

  Where the authority and the probes answer about a store by its id alone, the fate of
  each store of a round is known before the round begins, whatever the order in which
  the stores are taken.

  * `Forecast` tells what the answers will be, and `Forecast.fate` what they make of a
    store, `Forecast.fates` of some stores;
  * `Client.undergo` is what a fate does to the client, the world aside;
  * `Stage.Expects` is how far a store has come and what is still foretold of it, and
    `Stage.Expects.step` one step of it;
  * `Round.run_foreseen`: a round that is on its own does to the client what the fates of
    its stores do, one after the other.
-/
import RegionRouting.Proofs.RoundAlone

namespace RegionRouting

variable {ω : Type}

/-! ## Fates that are foretold -/

/-- What the authority will answer when it is called about a store, its retries included,
    and which stores will answer a probe.  That depends on the id of the store alone as
    long as the world is known, and calls and probes leave it known. -/
structure Forecast (ω : Type) [Authority ω] [Prober ω] where
  known : ω → Prop
  told : StoreId → Except RouteError StoreDescriptor
  up : StoreId → Bool
  call {world : ω} (id : StoreId) : known world →
    let out := (Backoffer.persist (Authority.store id) {}).run (Authority.place (.store id) world).2
    out.1.1 = told id ∧ known out.2
  probe {world : ω} (store : Store) : known world →
    let out := Prober.answers store (Prober.send store world)
    out.1 = up store.id ∧ known out.2

/-- What the answer of the authority makes of a store that is still cached, given whether
    it will answer a probe. -/
def Fate.ofAnswer (up : Bool) : Except RouteError StoreDescriptor → Fate
  | .ok descriptor =>
    if descriptor.state = .tombstone then .removed else if up then .recovered else .retained
  | .error _ => .retained

/-- The fate of a store that a round takes. -/
def Forecast.fate [Authority ω] [Prober ω] (forecast : Forecast ω) (cache : Cache)
    (store : Store) : Fate :=
  if cache.holdsStore store then .ofAnswer (forecast.up store.id) (forecast.told store.id)
  else .stale

/-- Some stores with their fates. -/
def Forecast.fates [Authority ω] [Prober ω] (forecast : Forecast ω) (cache : Cache)
    (drained : List Store) : List (Store × Fate) :=
  drained.map fun store => (store, forecast.fate cache store)

/-! ## What a fate does -/

namespace Client

/-- The client in another world. -/
def inWorld (client : Client ω) (world : ω) : Client ω :=
  { client with world }

/-- Does what the fate of a store asks for. -/
def undergo (client : Client ω) : Store × Fate → Client ω
  | (store, .recovered) =>
    let made := client.create store.reconnect
    (made.2.updateStore store made.1).2
  | (store, .removed) => ((client.invalidateLedBy store).2.invalidateStore store.id).2
  | (_, .stale) | (_, .retained) => client

/-- Does so for some stores, one after the other. -/
def undergoAll (client : Client ω) (settled : List (Store × Fate)) : Client ω :=
  settled.foldl undergo client

@[simp] theorem undergoAll_nil (client : Client ω) : client.undergoAll [] = client := rfl

theorem undergoAll_append (client : Client ω) (settled more : List (Store × Fate)) :
    client.undergoAll (settled ++ more) = (client.undergoAll settled).undergoAll more :=
  List.foldl_append

theorem undergoAll_singleton (client : Client ω) (entry : Store × Fate) :
    client.undergoAll [entry] = client.undergo entry := rfl

section
variable (client : Client ω) (world : ω)

theorem invalidateLedBy_inWorld (store : Store) : ((client.inWorld world).invalidateLedBy store).2 =
    (client.invalidateLedBy store).2.inWorld world := by
  cases held : client.cache.holdsStore store with
  | false =>
    have other : (client.inWorld world).cache.holdsStore store = false := held
    rw [invalidateLedBy_of_other other, invalidateLedBy_of_other held]
  | true =>
    have there : (client.inWorld world).cache.holdsStore store := held
    rw [invalidateLedBy_of_held there, invalidateLedBy_of_held held]
    rfl

theorem invalidateStore_inWorld (id : StoreId) : ((client.inWorld world).invalidateStore id).2 =
    (client.invalidateStore id).2.inWorld world := by
  unfold invalidateStore
  rw [inWorld, inWorld]
  dsimp only
  cases client.cache.stores[id]? with
  | none => rfl
  | some store =>
    simp only [notify_eq]
    rfl

theorem updateStore_inWorld (old new : Store) : ((client.inWorld world).updateStore old new).2 =
    (client.updateStore old new).2.inWorld world := by
  unfold updateStore
  rw [inWorld, inWorld]
  dsimp only
  split
  · cases new.proxy? <;> rfl
  · rfl

end

/-- A fate does nothing to stores of other ids. -/
theorem getElem?_undergo_of_apart (client : Client ω) {entry : Store × Fate} {id : StoreId}
    (apart : entry.1.id ≠ id) :
    (client.undergo entry).cache.stores[id]? = client.cache.stores[id]? := by
  obtain ⟨store, _ | _ | _ | _⟩ := entry
  · cases applied : ((client.create store.reconnect).2.updateStore store
      (client.create store.reconnect).1).1 with
    | false =>
      exact congrArg (·.cache.stores[id]?) (updateStore_snd_of_refused _ _ _ applied)
    | true => exact (getElem?_updateStore_of_applied _ _ _ applied id).trans (if_neg apart.symm)
  · obtain ⟨_, _, _, dropped⟩ := (client.invalidateLedBy store).2.invalidateStore_snd store.id
    rw [undergo, dropped, Std.ExtTreeMap.getElem?_erase, if_neg, stores_invalidateLedBy]
    simpa using apart
  · rfl
  · rfl

theorem getElem?_undergoAll_of_apart (client : Client ω) {settled : List (Store × Fate)}
    {id : StoreId} (apart : ∀ entry ∈ settled, entry.1.id ≠ id) :
    (client.undergoAll settled).cache.stores[id]? = client.cache.stores[id]? := by
  induction settled generalizing client with
  | nil => rfl
  | cons entry settled ih =>
    obtain ⟨first, rest⟩ := List.forall_mem_cons.1 apart
    exact (ih (client.undergo entry) rest).trans (client.getElem?_undergo_of_apart first)

end Client

/-! ## One store under way -/

variable [Authority ω] [Prober ω] {forecast : Forecast ω}

theorem Forecast.fate_of_held {cache : Cache} {store : Store} (held : cache.holdsStore store) :
    forecast.fate cache store = .ofAnswer (forecast.up store.id) (forecast.told store.id) :=
  if_pos held

/-- A store is stale exactly if it is not cached as it was. -/
theorem Forecast.fate_eq_stale_iff {cache : Cache} {store : Store} :
    forecast.fate cache store = .stale ↔ ¬cache.holdsStore store := by
  unfold fate
  split
  · next held =>
    refine iff_of_false ?_ (not_not_intro held)
    unfold Fate.ofAnswer
    split
    · split
      · exact nofun
      · split <;> exact nofun
    · exact nofun
  · next other => exact iff_of_true rfl other

/-- A fate depends on what is cached under the id of the store. -/
theorem Forecast.fate_congr {cache cache' : Cache} {store : Store}
    (same : cache'.stores[store.id]? = cache.stores[store.id]?) :
    forecast.fate cache' store = forecast.fate cache store := by
  rw [fate, fate, Cache.holdsStore_congr same]

theorem Forecast.stale_iff_of_mem {cache : Cache} {drained : List Store} {entry : Store × Fate}
    (member : entry ∈ forecast.fates cache drained) :
    entry.2 = .stale ↔ ¬cache.holdsStore entry.1 := by
  obtain ⟨store, -, rfl⟩ := List.mem_map.1 member
  exact forecast.fate_eq_stale_iff

theorem Forecast.map_id_fates (cache : Cache) (drained : List Store) :
    (forecast.fates cache drained).map (·.1.id) = drained.map Store.id :=
  List.map_map

/-- How far a round has come with a store, what it has done to the client since it took
    that, and what is still foretold: what the authority will answer, whether the store
    will answer a probe, or its fate. -/
inductive Stage.Expects (forecast : Forecast ω) (before : Client ω) : Stage → Client ω → Prop
  | rests {world : ω} (known : forecast.known world) :
      Expects forecast before .examine (before.inWorld world)
  | calls {store : Store} {world : ω} (held : before.cache.holdsStore store)
      (known : forecast.known world) :
      Expects forecast before (.call store) (before.inWorld world)
  | asks {store : Store} {budget : Backoffer} {world : ω} (held : before.cache.holdsStore store)
      (answer : let out := (budget.persist (Authority.store store.id)).run world
        out.1.1 = forecast.told store.id ∧ forecast.known out.2) :
      Expects forecast before (.ask store budget) (before.inWorld world)
  | evicts {store : Store} {world : ω} (held : before.cache.holdsStore store)
      (fate : forecast.fate before.cache store = .removed) (known : forecast.known world) :
      Expects forecast before (.evict store) (before.inWorld world)
  | drops {store : Store} {world : ω} (fate : forecast.fate before.cache store = .removed)
      (known : forecast.known world) :
      Expects forecast before (.drop store) ((before.invalidateLedBy store).2.inWorld world)
  | probes {store : Store} {world : ω} (held : before.cache.holdsStore store)
      (fate : forecast.fate before.cache store =
        if forecast.up store.id then .recovered else .retained)
      (known : forecast.known world) :
      Expects forecast before (.probe store) (before.inWorld world)
  | listens {store : Store} {world : ω} (held : before.cache.holdsStore store)
      (fate : forecast.fate before.cache store =
        if forecast.up store.id then .recovered else .retained)
      (answer : let out := Prober.answers store world
        out.1 = forecast.up store.id ∧ forecast.known out.2) :
      Expects forecast before (.listen store) (before.inWorld world)
  | installs {store : Store} {world : ω} (held : before.cache.holdsStore store)
      (fate : forecast.fate before.cache store = .recovered) (known : forecast.known world) :
      Expects forecast before (.install store (before.create store.reconnect).1)
        ((before.create store.reconnect).2.inWorld world)

/-- What one attempt leaves of a call. -/
theorem Backoffer.run_persist_eq {σ α : Type} (attempt : σ → Attempt α × σ) (budget : Backoffer)
    (state : σ) : (budget.persist attempt).run state =
      match (attempt state).1 with
      | .answer result => ((result, budget), (attempt state).2)
      | .fault error =>
        match budget.backoff error with
        | .error failure => ((.error failure, budget), (attempt state).2)
        | .ok (_, rest) => (rest.persist attempt).run (attempt state).2 := by
  rw [persist, Routine.run]
  cases (attempt state).1 with
  | answer result => rfl
  | fault error =>
    dsimp only
    split
    · next refused => rw [refused, Routine.run]
    · next granted => rw [granted, Routine.run]

namespace Stage.Expects

variable {before client : Client ω} {round : Round} {store : Store}

/-- When a round is over, there is nothing that it would still do. -/
theorem eq_of_isOver (h : round.stage.Expects forecast before client) (ended : round.isOver) :
    ∃ world, client = before.inWorld world := by
  obtain ⟨waiting, stage, kept, tally⟩ := round
  cases h with
  | rests => exact ⟨_, rfl⟩
  | _ => cases ended

/-- **One step.** If it settles a store, that has the fate that was foretold, and has
    undergone it. -/
theorem step (h : round.stage.Expects forecast before client) :
    ∃ more : Option (Store × Fate),
      round.Turns client more (round.step client).2.1 (round.step client).2.2 ∧
      (∀ entry ∈ more, entry.2 = forecast.fate before.cache entry.1) ∧
      (round.step client).2.1.stage.Expects forecast (before.undergoAll more.toList)
        (round.step client).2.2 := by
  obtain ⟨waiting, stage, kept, tally⟩ := round
  cases h with
  | @rests world known =>
    cases waiting with
    | nil => exact ⟨none, .idles rfl, nofun, .rests known⟩
    | cons store waiting =>
      simp only [Round.step, Round.examine]
      split
      · next held => exact ⟨none, .takes rfl rfl held, nofun, .calls held known⟩
      · next other =>
        refine ⟨some (store, .stale), .misses rfl rfl other, ?_, .rests known⟩
        rintro _ ⟨⟩
        exact (if_neg other).symm
  | @calls store world held known =>
    exact ⟨none, .inspects rfl rfl, nofun, .asks held (forecast.call store.id known)⟩
  | @asks store budget world held answer =>
    have fate := forecast.fate_of_held held
    rw [Backoffer.run_persist_eq] at answer
    have reply : (before.inWorld world).onWorld (Authority.store store.id) =
      ((Authority.store store.id world).1, before.inWorld (Authority.store store.id world).2) := rfl
    simp only [Round.step, Round.ask, reply]
    generalize Authority.store store.id world = out at answer
    obtain ⟨attempt, world'⟩ := out
    have retained (told : ∃ error, forecast.told store.id = .error error) :
        ∀ entry ∈ some (store, Fate.retained), entry.2 = forecast.fate before.cache entry.1 := by
      rintro _ ⟨⟩
      obtain ⟨error, told⟩ := told
      rw [fate, told]
      rfl
    cases attempt with
    | answer result =>
      obtain ⟨told, known⟩ := answer
      cases result with
      | ok descriptor =>
        rw [← told] at fate
        refine ⟨none, .inspects rfl ?_, nofun, ?_⟩
        · split <;> rfl
        · dsimp only
          split
          · next gone => exact .evicts held (fate.trans (if_pos gone)) known
          · next alive => exact .probes held (fate.trans (if_neg alive)) known
      | error error =>
        exact ⟨some (store, .retained), .retains rfl, retained ⟨error, told.symm⟩, .rests known⟩
    | fault error =>
      dsimp only at answer ⊢
      cases granted : budget.backoff error with
      | error failure =>
        rw [granted] at answer
        obtain ⟨told, known⟩ := answer
        exact ⟨some (store, .retained), .retains rfl, retained ⟨failure, told.symm⟩, .rests known⟩
      | ok rest =>
        rw [granted] at answer
        exact ⟨none, .inspects rfl rfl, nofun, .asks held answer⟩
  | @evicts store world held fate known =>
    refine ⟨none, .evicts rfl, nofun, ?_⟩
    simp only [Round.step, Client.invalidateLedBy_inWorld]
    exact .drops fate known
  | @drops store world fate known =>
    refine ⟨some (store, .removed), .removes rfl, ?_, ?_⟩
    · rintro _ ⟨⟩
      exact fate.symm
    · simp only [Round.step, Client.invalidateStore_inWorld]
      exact .rests known
  | @probes store world held fate known =>
    exact ⟨none, .inspects rfl rfl, nofun, .listens held fate (forecast.probe store known)⟩
  | @listens store world held fate answer =>
    obtain ⟨up, known⟩ := answer
    have reply : (before.inWorld world).onWorld (Prober.answers store) =
      ((Prober.answers store world).1, before.inWorld (Prober.answers store world).2) := rfl
    rw [← up] at fate
    simp only [Round.step, Round.listen, reply]
    generalize Prober.answers store world = out at fate known
    obtain ⟨answers, world'⟩ := out
    cases answers with
    | true => exact ⟨none, .answers rfl, nofun, .installs held fate known⟩
    | false =>
      refine ⟨some (store, .retained), .retains rfl, ?_, .rests known⟩
      rintro _ ⟨⟩
      exact fate.symm
  | @installs store world held fate known =>
    have applied : (((before.create store.reconnect).2.inWorld world).updateStore store
        (before.create store.reconnect).1).1 = true := by
      rw [Client.updateStore_fst]
      exact held
    refine ⟨some (store, .recovered), ?_, ?_, ?_⟩
    · simp only [Round.step, Round.install, applied]
      exact .recovers rfl applied
    · rintro _ ⟨⟩
      exact fate.symm
    · simp only [Round.step, Round.install, Client.updateStore_inWorld]
      exact .rests known

end Stage.Expects

/-! ## A round on its own -/

namespace Round

variable {client client' : Client ω} {round : Round} {drained : List Store}

/-- A round that began with some stores, and was on its own since.  Those that are
    settled had the fates that were foretold when it began, and have undergone them. -/
def Foreseen (forecast : Forecast ω) (client : Client ω) (drained : List Store) (round : Round)
    (client' : Client ω) : Prop :=
  ∃ settled, round.Accounts drained settled ∧
    (∀ entry ∈ settled, entry.2 = forecast.fate client.cache entry.1) ∧
    round.stage.Expects forecast (client.undergoAll settled) client'

theorem Foreseen.step (h : Foreseen forecast client drained round client')
    (distinct : (drained.map Store.id).Nodup) :
    Foreseen forecast client drained (round.step client').2.1 (round.step client').2.2 := by
  obtain ⟨settled, accounts, fates, expects⟩ := h
  obtain ⟨more, turn, fated, expects'⟩ := expects.step
  have accounts' := accounts.turn turn
  refine ⟨settled ++ more.toList, accounts', ?_, Client.undergoAll_append client _ _ ▸ expects'⟩
  rw [List.forall_mem_append]
  refine ⟨fates, ?_⟩
  cases more with
  | none => exact nofun
  | some entry =>
    rintro other member
    obtain rfl := List.mem_singleton.1 member
    -- the stores settled before have other ids
    have apart := accounts'.apart distinct
    have same := client.getElem?_undergoAll_of_apart fun entry among => (apart entry among).symm
    exact (fated _ rfl).trans (forecast.fate_congr same)

/-- **On its own** a round comes to its end.  Its stores had the fates that were foretold
    when it began, and the client has undergone these, in the order in which the stores
    were taken; apart from the world nothing else has changed. -/
theorem run_foreseen (forecast : Forecast ω) (known : forecast.known client.world)
    (distinct : (drained.map Store.id).Nodup) :
    let settled := forecast.fates client.cache drained
    let out := (Round.routine (fun _ => .done ()) { waiting := drained }).run client
    out.1.isOver = true ∧ out.1.Accounts drained settled ∧
      ∃ world, out.2 = (client.undergoAll settled).inWorld world := by
  intro settled out
  have begun : Foreseen forecast client drained { waiting := drained } client :=
    ⟨[], ⟨rfl, rfl, rfl⟩, nofun, .rests known⟩
  obtain ⟨ended, settled', accounts, fates, expects⟩ := run_routine
    (P := Foreseen forecast client drained) (fun _ => .done ()) (fun _ _ h => h)
    (fun round client' h => h.step distinct) _ _ begun
  have same : settled' = settled := by
    calc settled'
      _ = forecast.fates client.cache (settled'.map Prod.fst) := by
        rw [Forecast.fates, List.map_map]
        exact (List.map_id settled').symm.trans (List.map_congr_left fun entry among =>
          Prod.ext rfl (fates entry among))
      _ = settled := by rw [← accounts.drained_of_isOver ended]
  exact ⟨ended, same ▸ accounts, same ▸ expects.eq_of_isOver ended⟩

end Round

end RegionRouting
