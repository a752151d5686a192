/-
  Region routing — checkers at work.

  The two checkers that there are keep to what a checker has to: the one that is the
  scheduler of the cache, and one that stands apart.  In a run, all actions but the
  begin and the end of a round do no more to the first one than to hand stores over.

  * `Checker.lawful_own` and `Checker.lawful_apart`: both are lawful;
  * `Scene.hands_play`: what an action hands over to the scheduler;
  * `Run.checks`: a scheduler that is a checker stays at work in a run;
  * `Run.progress_own`: a round that begins in a run is in progress, until another one
    begins or ends.
-/
import RegionRouting.Proofs.RoundAccount
import RegionRouting.Simulation.Session

namespace RegionRouting

variable {ω : Type}

namespace Checker

/-! ## The checker that is the scheduler -/

section
variable {client client' : Client ω}

theorem installed_own_iff : own.Installed client ↔ ∃ queue, client.scheduler = .watching queue := by
  constructor
  · intro installed
    cases scheduler : client.scheduler with
    | watching queue => exact ⟨queue, rfl⟩
    | _ =>
      -- a queue that holds something is not to be found
      let store : Store := .direct ⟨⟨0⟩, "", [], .up⟩ 0
      have lost := congrArg (·.pending[store.id]?) (installed (WatchQueue.schedule {} store))
      simp [own, Client.withQueue, scheduler, Scheduler.queue, WatchQueue.schedule] at lost
  · rintro ⟨queue, scheduler⟩ other
    simp [own, Client.withQueue, scheduler, Scheduler.queue]

theorem foldl_schedule_watching (handed : List Store) (queue : WatchQueue) :
    handed.foldl Scheduler.schedule (.watching queue) =
      .watching (handed.foldl WatchQueue.schedule queue) := by
  induction handed generalizing queue with
  | nil => rfl
  | cons store handed ih => exact ih (queue.schedule store)

theorem hands_own_of_same (same : client'.scheduler = client.scheduler) :
    own.Hands client [] client' where
  queue := congrArg Scheduler.queue same
  installed installed := installed_own_iff.2 (same ▸ installed_own_iff.1 installed)

/-- Where the scheduler has a queue, that takes what is handed over. -/
theorem hands_own {handed : List Store} {queue : WatchQueue}
    (watching : client.scheduler = .watching queue)
    (scheduler : client'.scheduler = handed.foldl Scheduler.schedule client.scheduler) :
    own.Hands client handed client' := by
  rw [watching, foldl_schedule_watching] at scheduler
  refine ⟨?_, fun _ => installed_own_iff.2 ⟨_, scheduler⟩⟩
  change client'.scheduler.queue = handed.foldl WatchQueue.schedule client.scheduler.queue
  rw [watching, scheduler]
  rfl

theorem scheduler_updateStore (client : Client ω) (old new : Store) :
    (client.updateStore old new).2.scheduler =
      if (client.updateStore old new).1 ∧ new.proxy?.isSome then client.scheduler.schedule new
      else client.scheduler := by
  cases applied : (client.updateStore old new).1 with
  | false =>
    rw [client.updateStore_snd_of_refused old new applied]
    rfl
  | true =>
    obtain ⟨_, eq⟩ := client.updateStore_snd_of_applied old new applied
    rw [eq]
    simp

variable [Authority ω] [Prober ω]

theorem lawful_own : (own : Checker ω).Lawful where
  cache queue client := client.cache_withQueue queue
  ledger queue client := client.ledger_withQueue queue
  installed {client} installed queue := by
    obtain ⟨_, watching⟩ := installed_own_iff.1 installed
    refine installed_own_iff.2 ⟨queue, ?_⟩
    simp [own, Client.withQueue, watching]
  step {round} client direct := by
    have moved := round.moves client
    generalize (round.step client).2 = next at moved ⊢
    obtain ⟨round', client'⟩ := next
    cases moved with
    | settles | makes => exact hands_own_of_same rfl
    | evicts =>
      obtain ⟨_, _, eq⟩ := client.invalidateLedBy_snd _
      exact hands_own_of_same (by rw [eq])
    | drops =>
      obtain ⟨_, _, _, eq⟩ := client.invalidateStore_snd _
      exact hands_own_of_same (by rw [eq])
    | @installs store value _ stage =>
      have reached : value.proxy? = none := (direct store value stage).2
      refine hands_own_of_same ?_
      rw [scheduler_updateStore, reached]
      simp

end

/-! ## The checker that stands apart -/

theorem apart_store (id : StoreId) (script : Script) :
    (script.store id).2.apart = script.apart := by
  unfold Script.store
  split
  · rfl
  · split <;> rfl

/-- The script has the queue, and answers a round without touching it. -/
theorem lawful_apart : apart.Lawful where
  cache _ _ := rfl
  ledger _ _ := rfl
  installed _ _ _ := rfl
  step {round} client direct := by
    refine ⟨?_, fun _ _ => rfl⟩
    change (round.step client).2.2.world.world.apart = client.world.world.apart
    obtain ⟨waiting, stage, kept, tally⟩ := round
    cases stage with
    | examine => cases waiting <;> rfl
    | call | probe => rfl
    | ask store budget =>
      simp only [Round.step, Round.ask]
      have untouched := apart_store store.id client.world.world
      split
      · exact untouched
      · exact untouched
      · split <;> exact untouched
    | listen store =>
      simp only [Round.step, Round.listen]
      split <;> rfl
    | evict store =>
      obtain ⟨_, _, eq⟩ := client.invalidateLedBy_snd store
      rw [Round.step, eq]
    | drop store =>
      obtain ⟨_, _, _, eq⟩ := client.invalidateStore_snd store.id
      rw [Round.step, eq]
    | install store value =>
      have untouched : (client.updateStore store value).2.world = client.world := by
        cases applied : (client.updateStore store value).1 with
        | false =>
          rw [client.updateStore_snd_of_refused store value applied]
          rfl
        | true =>
          obtain ⟨_, eq⟩ := client.updateStore_snd_of_applied store value applied
          rw [eq]
          rfl
      change (client.updateStore store value).2.world.world.apart = _
      rw [untouched]

end Checker

/-! ## What is done beside a round -/

/-- The stores that an action hands over to the scheduler. -/
def Action.handed (client : Client ω) : Action ω → List Store
  | .schedule store => [store]
  | .updateStore old new =>
    if (client.updateStore old new).1 ∧ new.proxy?.isSome then [new] else []
  | _ => []

theorem Lookup.Resolves.scheduler {client client' : Client ω} {result : Except RouteError Region}
    (h : Resolves client result client') : client'.scheduler = client.scheduler := by
  cases h with
  | cached => rfl
  | fetched grown =>
    rw [Client.announceEvicted_eq]
    exact grown.scheduler
  | failed grown => exact grown.scheduler

/-- The scheduler is a checker that is at work: stores wait under their own ids, and its
    rounds install no value but one without a proxy. -/
structure Scene.Checks (scene : Scene ω) : Prop where
  installed : Checker.own.Installed scene.client
  keyed : (Checker.own.queue scene.client).Keyed
  direct : ∀ round ∈ scene.rounds, round.InstallsDirect

/-- **Beside a round.** Whatever is done but to begin or to end another round hands
    stores over, and no more: one that is scheduled, and one with a proxy that an
    update installs. -/
theorem Scene.hands_play [Authority ω] [Prober ω] {scene : Scene ω} (h : scene.Checks)
    {action : Action ω} (begins : ∀ drained, action ≠ .beginRound drained)
    (ends : ∀ place, action ≠ .finishRound place) :
    Checker.own.Hands scene.client (action.handed scene.client) (scene.play action).client := by
  obtain ⟨queue, watching⟩ := Checker.installed_own_iff.1 h.installed
  cases action with
  | beginRound drained => exact absurd rfl (begins drained)
  | finishRound place => exact absurd rfl (ends place)
  | schedule store => exact Checker.hands_own watching rfl
  | updateStore old new =>
    refine Checker.hands_own watching ?_
    rw [Action.handed]
    refine (Checker.scheduler_updateStore _ old new).trans ?_
    split <;> rfl
  | stepRound place =>
    rw [Scene.play]
    cases running : scene.rounds[place]? with
    | none => exact Checker.hands_own_of_same rfl
    | some round =>
      exact Checker.lawful_own.step scene.client (h.direct round (List.mem_of_getElem? running))
  | regionByKey key budget =>
    exact Checker.hands_own_of_same (Lookup.resolves_regionByKey key budget scene.client).scheduler
  | regionById id budget =>
    exact Checker.hands_own_of_same (Lookup.resolves_regionById id budget scene.client).scheduler
  | storeById id budget =>
    exact Checker.hands_own_of_same (Lookup.grows_storeById id budget scene.client).scheduler
  | updateRegion expected replacement =>
    refine Checker.hands_own_of_same ?_
    rw [Scene.play, Operation.run_updateRegion]
    obtain ⟨_, _, eq⟩ := scene.client.updateRegion_snd expected replacement
    have same := congrArg Client.scheduler eq
    exact same
  | invalidateRegion region =>
    obtain ⟨_, _, eq⟩ := scene.client.invalidateRegion_snd region
    have same := congrArg Client.scheduler eq
    exact Checker.hands_own_of_same same
  | invalidateLedBy store =>
    obtain ⟨_, _, eq⟩ := scene.client.invalidateLedBy_snd store
    have same := congrArg Client.scheduler eq
    exact Checker.hands_own_of_same same
  | invalidateStore id =>
    obtain ⟨_, _, _, eq⟩ := scene.client.invalidateStore_snd id
    have same := congrArg Client.scheduler eq
    exact Checker.hands_own_of_same same
  | clear =>
    obtain ⟨_, _, eq⟩ := scene.client.clear_eq
    have same := congrArg Client.scheduler eq
    exact Checker.hands_own_of_same same
  | cachedRegion | cachedStore | makeRegion | switchLeader | makeStore | forwardThrough | reconnect
  | judge | takeUp | elsewhere => exact Checker.hands_own_of_same rfl

section
variable [Authority ω] [Prober ω]

theorem Scene.direct_play {scene : Scene ω} (direct : ∀ round ∈ scene.rounds, round.InstallsDirect)
    (action : Action ω) : ∀ round ∈ (scene.play action).rounds, round.InstallsDirect := by
  have begun (stores : List Store) :
      ∀ round ∈ scene.rounds ++ [{ waiting := stores }], round.InstallsDirect := by
    intro round among
    rcases List.mem_append.1 among with before | last
    · exact direct round before
    · obtain rfl := List.mem_singleton.1 last
      rintro _ _ ⟨⟩
  cases action with
  | beginRound | takeUp => exact begun _
  | stepRound place =>
    rw [play]
    cases scene.rounds[place]? with
    | none => exact direct
    | some running =>
      intro round among
      rcases List.mem_or_eq_of_mem_set among with before | rfl
      · exact direct round before
      · exact running.installsDirect_step scene.client
  | finishRound place =>
    rw [play]
    cases scene.rounds[place]? with
    | none => exact direct
    | some running =>
      rw [Option.elim_some, finishRound]
      split
      · intro round among
        rcases List.mem_or_eq_of_mem_set among with before | rfl
        · exact direct round before
        · rintro _ _ ⟨⟩
      · exact direct
  | _ => exact direct

/-- **One action.** The scheduler stays at work. -/
theorem Scene.Checks.play {scene : Scene ω} (h : scene.Checks) (action : Action ω) :
    (scene.play action).Checks := by
  have direct := Scene.direct_play h.direct action
  have replaced {queue : WatchQueue} (keyed : queue.Keyed) {scene' : Scene ω}
      (client : scene'.client = Checker.own.setQueue queue scene.client)
      (direct : ∀ round ∈ scene'.rounds, round.InstallsDirect) : scene'.Checks := by
    refine ⟨?_, ?_, direct⟩
    · rw [client]
      exact Checker.lawful_own.installed h.installed queue
    · rw [client, h.installed]
      exact keyed
  have beside (begins : ∀ drained, action ≠ .beginRound drained)
      (ends : ∀ place, action ≠ .finishRound place) : (scene.play action).Checks := by
    have hands := Scene.hands_play h begins ends
    refine ⟨hands.installed h.installed, ?_, direct⟩
    rw [hands.queue]
    exact .foldl_schedule _ h.keyed
  cases action with
  | beginRound => exact replaced .empty rfl direct
  | finishRound place =>
    rw [Scene.play] at direct ⊢
    cases running : scene.rounds[place]? with
    | none => exact h
    | some round =>
      rw [running, Option.elim_some, Scene.finishRound] at direct
      rw [Option.elim_some, Scene.finishRound]
      split at direct
      · next ended =>
        rw [if_pos ended]
        exact replaced (h.keyed.restore round.kept) rfl direct
      · next going =>
        rw [if_neg going]
        exact h
  | _ => exact beside (by rintro _ ⟨⟩) (by rintro _ ⟨⟩)

theorem Run.checks (run : Run ω) (watching : ∃ queue, run.scheduler = .watching queue) (i : Nat) :
    (run.moment i).Checks := by
  refine run.induct ⟨Checker.installed_own_iff.2 watching, ?_, by rintro _ ⟨⟩⟩
    (fun scene action _ h => h.play action) i
  intro id store waiting
  have member : store ∈ run.scheduler.waiting :=
    Scheduler.mem_waiting_of_queue (WatchQueue.mem_values.2 ⟨id, waiting⟩)
  rw [run.unused] at member
  cases member

/-! ## Rounds in a run -/

/-- A round that goes on is the same round, or has made a step; nothing else is done to
    it. -/
theorem Scene.getElem?_rounds_play {scene : Scene ω} {place : Nat} {round : Round}
    (running : scene.rounds[place]? = some round) {action : Action ω}
    (ends : ∀ place, action ≠ .finishRound place) (other : action ≠ .stepRound place) :
    (scene.play action).rounds[place]? = some round := by
  have left (stores : List Store) :
      (scene.rounds ++ [{ waiting := stores }])[place]? = some round := by
    rw [List.getElem?_append_left (List.getElem?_eq_some_iff.1 running).1, running]
  cases action with
  | beginRound | takeUp => exact left _
  | finishRound place => exact absurd rfl (ends place)
  | stepRound place' =>
    rw [play]
    cases scene.rounds[place']? with
    | none => exact running
    | some stepping =>
      have apart : place' ≠ place := fun same => other (same ▸ rfl)
      exact (List.getElem?_set_ne apart).trans running
  | _ => exact running

/-- The stores that some actions of a run hand over, from a moment on. -/
def Run.handed (run : Run ω) (i n : Nat) : List Store :=
  (List.range n).flatMap fun k =>
    (run.actions[i + k]?).elim [] (Action.handed (run.moment (i + k)).client)

/-- **A round in a run.** From the moment that a round begins, and as long as no other
    one begins or ends, it is in progress, with what is handed over meanwhile. -/
theorem Run.progress_own (run : Run ω) (watching : ∃ queue, run.scheduler = .watching queue)
    {i : Nat} {drained : List Store} (begun : run.actions[i]? = some (.beginRound drained))
    (n : Nat)
    (beside : ∀ k < n, (∀ other, run.actions[i + 1 + k]? ≠ some (.beginRound other)) ∧
      ∀ place, run.actions[i + 1 + k]? ≠ some (.finishRound place)) :
    ∃ round, (run.moment (i + 1 + n)).rounds[(run.moment i).rounds.length]? = some round ∧
      Checker.own.Progress (run.moment i).client drained (run.handed (i + 1) n) round
        (run.moment (i + 1 + n)).client := by
  induction n with
  | zero =>
    refine ⟨{ waiting := drained }, ?_, ?_⟩
    · rw [Nat.add_zero, run.moment_succ begun]
      exact List.getElem?_concat_length
    · rw [Nat.add_zero, run.moment_succ begun]
      exact .begun ((run.moment_allows begun).drained drained rfl)
  | succ n ih =>
    obtain ⟨round, running, progress⟩ := ih fun k less => beside k (Nat.lt_succ_of_lt less)
    obtain ⟨begins, ends⟩ := beside n (Nat.lt_succ_self n)
    rw [Run.handed, List.range_succ, List.flatMap_append, List.flatMap_singleton, ← Run.handed,
      ← Nat.add_assoc]
    cases played : run.actions[i + 1 + n]? with
    | none =>
      rw [run.moment_succ_of_none played]
      exact ⟨round, running, by simpa using progress⟩
    | some action =>
      rw [played] at begins ends
      rw [run.moment_succ played]
      have others (place : Nat) : action ≠ .finishRound place := fun same => ends place (same ▸ rfl)
      by_cases own : action = .stepRound (run.moment i).rounds.length
      · subst own
        have stepped : (run.moment (i + 1 + n)).play (.stepRound (run.moment i).rounds.length) =
            (run.moment (i + 1 + n)).stepRound (run.moment i).rounds.length round := by
          rw [Scene.play, running]
          rfl
        rw [stepped]
        refine ⟨(round.step (run.moment (i + 1 + n)).client).2.1, ?_, ?_⟩
        · exact List.getElem?_set_self (List.getElem?_eq_some_iff.1 running).1
        · rw [Option.elim_some, Action.handed, List.append_nil]
          · exact progress.stepped
          · rintro _ ⟨⟩
          · rintro _ _ ⟨⟩
      · refine ⟨round, Scene.getElem?_rounds_play running others own, progress.beside ?_⟩
        exact Scene.hands_play (run.checks watching _)
          (fun other same => begins other (same ▸ rfl)) others

end

end RegionRouting
