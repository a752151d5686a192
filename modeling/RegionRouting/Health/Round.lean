/-
  Region routing — rounds of health checks.

  A round takes every waiting store off the queue and settles one after the
  other: is the value still cached, does the authority still know the store,
  does it answer a probe?  A store that answers is cached anew without its
  proxy; one that does not is kept for the next round.

  A round is a machine whose steps are what it does without interruption.
  Between two steps the rest of the program may use the client, so a round
  that runs beside other work is a sequence of steps with other operations in
  between.  A step that uses the cache has to hold the lock.

  * `Round.step` makes one step, and says how long to sleep after it;
  * `Round.routine` is the round to its end, where `others` act before each
    step;
  * `work_step_lt`: each step leaves less work, so that a round comes to its
    end whatever the rest of the program does.
-/
import RegionRouting.Operation

namespace RegionRouting

/-- Checks whether a store answers on its own address. -/
class Prober (ω : Type) where
  /-- sends a probe to a store -/
  send (store : Store) (world : ω) : ω
  /-- does the store answer the probe that was sent to it? -/
  answers (store : Store) (world : ω) : Bool × ω

/-- What became of the stores of a round: answering again, removed as
    tombstoned, no longer cached as they were, kept for the next round. -/
structure Tally where
  recovered : Nat := 0
  removed : Nat := 0
  stale : Nat := 0
  retained : Nat := 0
  deriving DecidableEq

/-- What a round does next. -/
inductive Stage where
  /-- takes the next store, and checks that it is still cached -/
  | examine
  /-- places a call about the store to the authority -/
  | call (store : Store)
  /-- makes an attempt of the call -/
  | ask (store : Store) (budget : Backoffer)
  /-- drops the regions led from a tombstoned store -/
  | evict (store : Store)
  /-- drops the tombstoned store itself -/
  | drop (store : Store)
  | probe (store : Store)
  /-- hears whether the store answers the probe -/
  | listen (store : Store)
  /-- caches a value without a proxy in the place of the store -/
  | install (store direct : Store)
  deriving DecidableEq

/-- How many steps a store may still take from a stage on. -/
def Stage.distance : Stage → Nat
  | examine => 0
  | drop _ | install .. => 1
  | evict _ | listen _ => 2
  | probe _ => 3
  | ask _ budget => 4 + budget.retries
  | call _ => 15

/-- A round under way: the stores still to be taken, the next step, the stores
    kept for the next round, and the tally so far. -/
structure Round where
  waiting : List Store
  stage : Stage := .examine
  kept : List Store := []
  tally : Tally := {}

namespace Round

variable {ω : Type}

/-! ## One step -/

def isOver (round : Round) : Bool :=
  match round.stage with
  | .examine => round.waiting.isEmpty
  | _ => false

/-- Does the next step use the cache? -/
def usesCache (round : Round) : Bool :=
  match round.stage with
  | .examine | .evict _ | .drop _ | .install .. => true
  | _ => false

/-- Is done with a store, and counts what became of it. -/
def settle (round : Round) (count : Tally → Tally) : Round :=
  { round with stage := .examine, tally := count round.tally }

/-- Is done with a store, and keeps it for the next round. -/
def keep (round : Round) (store : Store) : Round :=
  { round.settle fun tally => { tally with retained := tally.retained + 1 } with
    kept := round.kept ++ [store] }

def recovered (tally : Tally) : Tally :=
  { tally with recovered := tally.recovered + 1 }

def removed (tally : Tally) : Tally :=
  { tally with removed := tally.removed + 1 }

def stale (tally : Tally) : Tally :=
  { tally with stale := tally.stale + 1 }

/-- Checks that a store is still cached. -/
def examine (round : Round) (store : Store) (client : Client ω) : Round :=
  if client.cache.holdsStore store then
    { round with stage := .call store }
  else
    round.settle stale

/-- Places a call about a store, with a fresh budget. -/
def call [Authority ω] (round : Round) (store : Store) (client : Client ω) :
    Nat × Round × Client ω :=
  let (delay, client) := client.onWorld (Authority.place (.store store.id))
  (delay, { round with stage := .ask store {} }, client)

/-- Makes one attempt to ask the authority about a store. -/
def ask [Authority ω] (round : Round) (store : Store) (budget : Backoffer)
    (client : Client ω) : Nat × Round × Client ω :=
  let (reply, client) := client.onWorld (Authority.store store.id)
  match reply with
  | .answer (.ok descriptor) =>
    let stage := if descriptor.state = .tombstone then .evict store else .probe store
    (0, { round with stage }, client)
  | .answer (.error _) => (0, round.keep store, client)
  | .fault error =>
    match budget.backoff error with
    | .error _ => (0, round.keep store, client)
    | .ok (sleep, budget) => (sleep.toNat, { round with stage := .ask store budget }, client)

/-- Hears whether a store answers, and then makes the value to be cached. -/
def listen [Prober ω] (round : Round) (store : Store) (client : Client ω) : Round × Client ω :=
  let (answers, client) := client.onWorld (Prober.answers store)
  if answers then
    let (direct, client) := client.create store.reconnect
    ({ round with stage := .install store direct }, client)
  else
    (round.keep store, client)

/-- Caches a store without its proxy. -/
def install (round : Round) (store direct : Store) (client : Client ω) : Round × Client ω :=
  let (applied, client) := client.updateStore store direct
  (round.settle (if applied then recovered else stale), client)

variable [Authority ω] [Prober ω]

/-- Makes the next step.  Returns how long to sleep before the one after. -/
def step (round : Round) (client : Client ω) : Nat × Round × Client ω :=
  match round.stage with
  | .examine =>
    match round.waiting with
    | [] => (0, round, client)
    | store :: waiting => (0, { round with waiting }.examine store client, client)
  | .call store => round.call store client
  | .ask store budget => round.ask store budget client
  | .evict store => (0, { round with stage := .drop store }, (client.invalidateLedBy store).2)
  | .drop store => (0, round.settle removed, (client.invalidateStore store.id).2)
  | .probe store =>
    (0, { round with stage := .listen store },
      { client with world := Prober.send store client.world })
  | .listen store => (0, round.listen store client)
  | .install store direct => (0, round.install store direct client)

/-! ## Running -/

/-- A bound on the steps to the end.  A store that is newly called about will
    have a budget of ten retries, and so less than sixteen steps to go. -/
def work (round : Round) : Nat :=
  16 * round.waiting.length + round.stage.distance

/-- Each step of a round leaves less work. -/
theorem work_step_lt {round : Round} (h : round.isOver = false) (client : Client ω) :
    (round.step client).2.1.work < round.work := by
  obtain ⟨waiting, stage, kept, tally⟩ := round
  cases stage with
  | examine =>
    cases waiting with
    | nil => simp [isOver] at h
    | cons store waiting =>
      simp only [step, examine, work, List.length_cons]
      split
      · simp only [Stage.distance]
        omega
      · simp only [settle, Stage.distance]
        omega
  | call store =>
    simp only [step, call, work, Stage.distance, Backoffer.retries]
    have : (10 : UInt32).toNat - (0 : UInt32).toNat = 10 := rfl
    omega
  | ask store budget =>
    simp only [step, ask, work]
    split
    · simp only
      split <;> simp only [Stage.distance] <;> omega
    · simp only [keep, settle, Stage.distance]
      omega
    · split
      · simp only [keep, settle, Stage.distance]
        omega
      · next granted =>
        have := Backoffer.retries_lt_of_backoff granted
        simp only [Stage.distance]
        omega
  | evict store => simp [step, work, Stage.distance]
  | drop store => simp [step, work, settle, Stage.distance]
  | probe store => simp [step, work, Stage.distance]
  | listen store =>
    simp only [step, listen, work]
    split <;> simp only [keep, settle, Stage.distance] <;> omega
  | install store direct => simp [step, install, work, settle, Stage.distance]

/-- The round to its end; `others` is what the rest of the program does before
    each step. -/
def routine (others : Round → Operation ω Unit) (round : Round) : Operation ω Round :=
  if _ : round.isOver then
    .done round
  else
    (others round).bind fun _ =>
      if round.usesCache then
        .acquire <| .act (fun client => (round.step client).2.2) fun client =>
          .release <| .sleep (round.step client).1 <| routine others (round.step client).2.1
      else
        .act (fun client => (round.step client).2.2) fun client =>
          .sleep (round.step client).1 <| routine others (round.step client).2.1
  termination_by round.work
  decreasing_by all_goals exact work_step_lt (by simpa using ‹¬round.isOver = true›) _

end Round
end RegionRouting
