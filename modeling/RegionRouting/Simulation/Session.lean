/-
  Region routing — sessions in a scripted world.

  A `Session` is a router in a scripted world that keeps a transcript, with one
  retry budget for the lookups that are not made through the router, and with
  a health checker of its own.  That checker is the scheduler of the cache, or
  stands apart from it with a queue of its own.

  Operations are routines, and the health checks of both checkers run in the
  background while the caller of an operation sleeps or waits for the lock.
  The session notes which rounds the router's task begins (`Session.begun`).

  * `Session.turnOf` is one turn of a task, and `Session.turns` lets the background
    go on until it waits as well;
  * `Session.carryOut` carries out a routine, and `Session.advance` sleeps;
  * `Session.startTask` and `Session.endTask` start and end the periodic task
    of the session's checker.
-/
import RegionRouting.Router
import RegionRouting.Simulation.Roster
import RegionRouting.Simulation.Script
import RegionRouting.Transcript

namespace RegionRouting

abbrev World := Observed Script

/-- A round that the router's task has begun: the moment, the stores that
    waited with the scheduler of the cache then, and the round itself. -/
structure Begun where
  moment : Nat
  pending : List Store
  round : Round

/-- A router in a scripted world.  `ownsScheduler` says that the session's
    checker is the scheduler of the cache; `handle` is its periodic task, if
    one was ever started, and `some none` if that has ended; `begun` are the
    rounds that the router's task has begun so far, and `orders` has for each
    number of them the order in which a queue is drained then. -/
structure Session where
  router : Router World
  ownsScheduler : Bool := false
  handle : Option (Option HealthTask) := none
  budget : Backoffer := {}
  roster : Roster := {}
  orders : Nat → DrainOrder := fun _ => .ascending
  begun : List Begun := []

/-! ## Checkers in a script -/

namespace Checker

/-- The checker that stands apart from the cache, with its queue in the script. -/
def apart : Checker World where
  queue client := client.world.world.apart
  setQueue apart client :=
    { client with world := { client.world with world := { client.world.world with apart } } }

/-- Plays the intervention that comes between a probe and its answer.  Stores
    are handed over to the given checker. -/
def intervene (checker : Checker World) (round : Round) : Operation World Unit :=
  match round.stage with
  | .listen probed => do
    match ← Routine.perform (·.onWorld (Observed.inside (Script.intervention probed.id))) with
    | none => return ()
    | some (.schedule store) => Routine.change (checker.schedule store)
    | some (.invalidate id) => discard (Operation.invalidateStore id)
  | _ => return ()

end Checker

namespace Session

variable {α : Type}

/-- A session with a router.  If the router has a task, it is awake. -/
def start (router : Router World) (ownsScheduler : Bool) : Session :=
  { router, ownsScheduler, roster := ({} : Roster).wake (.background .router) }

/-! ## The parts of a session -/

def client (session : Session) : Client World :=
  session.router.client

def withClient (session : Session) (client : Client World) : Session :=
  { session with router := { session.router with client } }

/-- Lets an operation act on the client without interruption. -/
def act (session : Session) (operation : Client World → α × Client World) : α × Session :=
  let (result, client) := operation session.client
  (result, session.withClient client)

def script (session : Session) : Script :=
  session.client.world.world

def withScript (session : Session) (script : Script) : Session :=
  session.withClient
    { session.client with world := { session.client.world with world := script } }

/-- Makes a value that takes a generation from the ledger. -/
def create (session : Session) (make : Ledger → α × Ledger) : α × Session :=
  session.act (·.create make)

/-- The same session with nothing noted of what has happened so far. -/
def forget (session : Session) : Session :=
  let client := session.client
  let scheduler := match client.scheduler with
    | .recording _ => .recording []
    | other => other
  session.withClient { client with notices := [], scheduler, world := client.world.forget }

/-! ## The checkers -/

/-- The session's checker. -/
def ownChecker (session : Session) : Checker World :=
  if session.ownsScheduler then .own else .apart

/-- The checker of a task in the background. -/
def checker (session : Session) (background : Background) : Checker World :=
  let checker : Checker World := match background with
    | .router => .own
    | .session => session.ownChecker
  { checker with
    order := session.orders session.begun.length
    others := session.ownChecker.intervene }

/-- Hands a store to the session's checker. -/
def schedule (session : Session) (store : Store) : Session :=
  session.withClient (session.ownChecker.schedule store session.client)

/-- How many stores wait in the queue of the session's checker. -/
def pending (session : Session) : Nat :=
  (session.ownChecker.queue session.client).size

/-! ## The background -/

/-- A task in the background, as long as it runs. -/
def task? (session : Session) : Background → Option HealthTask
  | .router => session.router.task
  | .session => session.handle.join

def putTask (session : Session) (task : HealthTask) : Background → Session
  | .router => { session with router := { session.router with task := some task } }
  | .session => { session with handle := some (some task) }

/-- The round that a step of the router's task has begun, if it has: the task was
    idle before, and has a round under way after it. -/
def beginning? (session : Session) (task next : HealthTask) : Option Begun :=
  match task.current, next.current with
  | none, some (round, _) => some {
      moment := session.roster.now
      pending := session.client.scheduler.queue.values
      round }
  | _, _ => none

/-- Lets a task do the next thing. -/
def stepTask (session : Session) (background : Background) (task : HealthTask) : Session :=
  let (next, stepped) := session.act (task.step (session.checker background) session.roster.now)
  let begun := match background with
    | .router => session.begun ++ (session.beginning? task next).toList
    | .session => session.begun
  { stepped with begun }.putTask next background

theorem roster_stepTask (session : Session) (background : Background) (task : HealthTask) :
    (session.stepTask background task).roster = session.roster := by
  cases background <;> rfl

/-- A bound on the ticks that are due by now. -/
def ticksDue (session : Session) : Nat :=
  let ofTask (background : Background) :=
    (session.task? background).elim 0 (·.ticksDue session.roster.now)
  ofTask .router + ofTask .session

/-- A bound on the steps to the end of the rounds under way. -/
def work (session : Session) : Nat :=
  let ofTask (background : Background) := (session.task? background).elim 0 (·.work)
  ofTask .router + ofTask .session

/-- A task that does something leaves fewer ticks, or less of its round. -/
theorem stepTask_lt {session : Session} {background : Background} {task : HealthTask}
    (running : session.task? background = some task) (due : task.wake ≤ session.roster.now) :
    let rest := session.stepTask background task
    rest.ticksDue < session.ticksDue ∨
      rest.ticksDue = session.ticksDue ∧ rest.work < session.work := by
  have less := task.step_lt (session.checker background) due session.client
  cases background with
  | router =>
    simp only [task?] at running
    simp only [stepTask, act, putTask, withClient, ticksDue, work, task?, running,
      Option.elim_some]
    omega
  | session =>
    simp only [task?] at running
    simp only [stepTask, act, putTask, withClient, ticksDue, work, task?, running,
      Option.join_some, Option.elim_some]
    omega

/-- Whose turn it is has no part in what is left to do at one moment. -/
theorem ticksDue_withRoster (session : Session) {roster : Roster}
    (h : roster.now = session.roster.now) :
    ticksDue { session with roster } = session.ticksDue := by
  simp only [ticksDue, task?, h]

/-- What a task in the background does when it is its turn.  If it has nothing to do yet
    it sleeps, if the lock that it needs is taken it waits for it, and these end the turn
    as does a task that is no more; else it does the next thing. -/
def turnOf (session : Session) (background : Background) : Session :=
  let party := Party.background background
  let rest := session.roster.endTurn
  match session.task? background with
  | none => { session with roster := rest }
  | some task =>
    if session.roster.now < task.wake then
      { session with roster := rest.sleep party task.wake }
    else if task.usesCache (session.checker background) session.client then
      match session.roster.take? party with
      | none => { session with roster := rest.join party }
      | some roster => { session.stepTask background task with roster := roster.release }
    else
      session.stepTask background task

/-- What is left to do at one moment: ticks, steps of rounds, and turns. -/
def toDo (session : Session) : Nat × Nat × Nat :=
  (session.ticksDue, session.work, session.roster.awake.length)

/-- Less is left to do after a task has had its turn. -/
theorem toDo_turnOf {session : Session} {background : Background} {tail : List Party}
    (turn : session.roster.awake = .background background :: tail) :
    Prod.Lex (· < ·) (Prod.Lex (· < ·) (· < ·)) (session.turnOf background).toDo session.toDo := by
  have fewer : session.roster.awake.tail.length < session.roster.awake.length := by simp [turn]
  have stepped {task : HealthTask} (running : session.task? background = some task)
      (due : ¬session.roster.now < task.wake) (roster : Roster)
      (now : roster.now = session.roster.now) :
      Prod.Lex (· < ·) (Prod.Lex (· < ·) (· < ·))
        (toDo { session.stepTask background task with roster }) session.toDo := by
    rw [toDo, ticksDue_withRoster _ (by rw [now, roster_stepTask])]
    rcases stepTask_lt running (Nat.le_of_not_lt due) with fewer | ⟨same, less⟩
    · exact Prod.Lex.left _ _ fewer
    · rw [same]
      exact Prod.Lex.right _ (Prod.Lex.left _ _ less)
  unfold turnOf
  dsimp only
  split
  · exact Prod.Lex.right _ (Prod.Lex.right _ fewer)
  · next task running =>
    split
    · exact Prod.Lex.right _ (Prod.Lex.right _ fewer)
    · next due =>
      split
      · split
        · exact Prod.Lex.right _ (Prod.Lex.right _ fewer)
        · next roster taken =>
          exact stepped running due _ ((Roster.now_release _).trans (Roster.now_of_take? taken))
      · exact stepped running due _ (congrArg Roster.now (roster_stepTask ..))

/-- Lets the tasks in the background that are awake go on, one after the other,
    until it is the turn of someone else or nobody is awake. -/
def turns (session : Session) : Session :=
  match _ : session.roster.awake with
  | .background background :: _ => turns (session.turnOf background)
  | _ => session
  termination_by session.toDo
  decreasing_by exact toDo_turnOf ‹_›

/-! ## Carrying out routines -/

/-- Ends the turn of the party that the background has made way for. -/
def endTurn (session : Session) : Session :=
  { session with roster := session.roster.endTurn }

/-- Lets the background go on, if it is awake. -/
def yield (party : Party) (session : Session) : Session :=
  { session with roster := session.roster.wake party }.turns.endTurn

/-- Takes the lock, perhaps after others. -/
def acquire (party : Party) (session : Session) : Session :=
  match session.roster.take? party with
  | some roster => { session with roster }
  | none => { session with roster := session.roster.join party }.turns.endTurn

/-- Gives the lock back. -/
def release (session : Session) : Session :=
  { session with roster := session.roster.release }

/-- Lets time pass from `now` to the alarm at `stop` of a party that sleeps,
    with what the background does until then. -/
def sleepUntil (stop now : Nat) (session : Session) : Session :=
  let session := session.turns
  match session.roster.nextAlarm? with
  | none => session.endTurn
  | some moment =>
    if now < moment ∧ moment ≤ stop then
      sleepUntil stop moment { session with roster := session.roster.ring moment }
    else
      session.endTurn
  termination_by stop - now

/-- Sleeps for some milliseconds. -/
def sleep (party : Party) (ms : Nat) (session : Session) : Session :=
  if ms = 0 then
    session
  else
    let now := session.roster.now
    let stop := now + ms
    { session with roster := session.roster.sleep party stop }.sleepUntil stop now

/-- Carries out a routine as one of the parties. -/
def carryOut (party : Party) : Routine (Client World) α → Session → α × Session
  | .done result, session => (result, session)
  | .act change next, session =>
    carryOut party (next session.client) (session.withClient (change session.client))
  | .acquire next, session => carryOut party next (session.acquire party)
  | .release next, session => carryOut party next session.release
  | .sleep ms next, session => carryOut party next (session.sleep party ms)

/-- Carries out a routine as the caller. -/
def perform (session : Session) (routine : Operation World α) : α × Session :=
  session.carryOut .caller routine

/-- Lets some milliseconds pass. -/
def advance (session : Session) (ms : Nat) : Session :=
  session.sleep .caller ms

/-! ## Lookups -/

/-- Performs a lookup on the session's own budget. -/
def lookup (session : Session) (lookup : Lookup World α) : Except RouteError α × Session :=
  let ((result, budget), session) := session.perform (lookup session.budget)
  (result, { session with budget })

/-- Performs a lookup through the router. -/
def request (session : Session) (lookup : Lookup World α) : Except RouteError α × Session :=
  session.perform (session.router.config.request lookup)

/-- Starts a lookup for each of some keys at once, while region calls take some
    time, and waits for all of them.  They are heard in the order of the keys:
    each has asked for the lock before the first sleeps. -/
def lookupAll (session : Session) (delay : Nat) (keys : List Key) :
    List (Except RouteError Region) × Session :=
  if keys.isEmpty then
    ([], session)
  else
    let session := (session.withScript { session.script with delay }).yield .lookup
    let (_, session) := session.perform (keys.forM fun _ => Routine.change (·.record .lookup))
    let (results, session) := keys.foldl
      (fun (results, session) key =>
        let settle := do Lookup.announced (← Lookup.settleKey key)
        let (result, session) := session.carryOut .lookup (session.router.config.request settle)
        (results ++ [result], session.yield .lookup))
      (([] : List (Except RouteError Region)), session.acquire .lookup)
    let session := session.release.yield .caller
    (results, session.withScript { session.script with delay := 0 })

/-! ## Health checks -/

/-- Checks every store in the queue of the session's checker once. -/
def checkOnce (session : Session) : Tally × Session :=
  session.perform (session.checker .session).checkOnce

/-- Ends the periodic task of the session's checker, if there is one. -/
def endTask (session : Session) : Session :=
  { session with
    handle := session.handle.map fun _ => none
    roster := session.roster.dismiss (.background .session) }

/-- Ends the periodic task, and forgets that there was one. -/
def dropTask (session : Session) : Session :=
  { session.endTask with handle := none }

/-- Starts the periodic task of the session's checker, in the place of an
    earlier one. -/
def startTask (session : Session) (interval : Nat) : Session :=
  let session := session.endTask
  let handle := some (HealthTask.start? session.roster.now interval)
  let roster := session.roster.wake (.background .session)
  { session with handle, roster }.yield .caller

/-- Ends the periodic task of the router. -/
def close (session : Session) : Session :=
  { session with
    router := session.router.close
    roster := session.roster.dismiss (.background .router) }

end Session
end RegionRouting
