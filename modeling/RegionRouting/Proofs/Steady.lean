/-
  Region routing — what holds on while a session is used.

  The caller of a session does one thing after the other, and the background
  takes turns with it.  Of all this the router's health checks see little: their
  task steps in turns of its own, and their party moves between those who are
  awake, those who sleep and those who wait for the lock.

  * `Session.Used`: what a session may become while it is used and not closed;
  * `Steady`: a property of the router's task, of the rounds that it has begun and of
    the roster that each of these moves keeps; the turn of the router has moves of its
    own, which are the session's;
  * `Steady.turnOf`: such a property is kept by the turn of a task, and so by the turns of
    the background (`Steady.turns_settled`);
  * `Steady.used`: it is kept as long as the session is used.
-/
import RegionRouting.Simulation.Session

namespace RegionRouting

/-- The party of the router's health checks. -/
abbrev Party.router : Party :=
  .background .router

/-! ## Using a session -/

namespace Session

/-- What a session may become, except that it is not closed: its caller carries out
    routines one after another, which may sleep; starts lookups beside each other; and
    starts and ends the health checks that are not the router's.  Whatever the script,
    the client or the budget may become in between is allowed. -/
inductive Used (session : Session) : Session → Prop
  | unused : Used session session
  | perform {α : Type} {before : Session} (used : Used session before)
      (routine : Operation World α) : Used session (before.perform routine).2
  | lookupAll {before : Session} (used : Used session before) (delay : Nat) (keys : List Key) :
      Used session (before.lookupAll delay keys).2
  | startTask {before : Session} (used : Used session before) (interval : Nat) :
      Used session (before.startTask interval)
  | endTask {before : Session} (used : Used session before) : Used session before.endTask
  | dropTask {before : Session} (used : Used session before) : Used session before.dropTask
  | change {before : Session} (used : Used session before) (client : Client World)
      (budget : Backoffer) : Used session { before.withClient client with budget }

variable {session before : Session}

theorem Used.request {α : Type} (used : session.Used before) (lookup : Lookup World α) :
    session.Used (before.request lookup).2 :=
  used.perform _

theorem Used.create {α : Type} (used : session.Used before) (make : Ledger → α × Ledger) :
    session.Used (before.create make).2 :=
  used.change _ before.budget

theorem Used.advance (used : session.Used before) (ms : Nat) : session.Used (before.advance ms) :=
  used.perform (Routine.pause ms)

end Session

/-! ## Steady properties -/

namespace Session

variable {session : Session}

/-- The property holds of the router's task, of the rounds that it has begun and of the
    roster. -/
def Has (session : Session) (P : Option HealthTask → List Begun → Roster → Prop) : Prop :=
  P session.router.task session.begun session.roster

theorem has_iff {P : Option HealthTask → List Begun → Roster → Prop}
    {task : Option HealthTask} (running : session.task? .router = task) (roster : Roster) :
    Has { session with roster } P ↔ P task session.begun roster := by
  rw [← running]
  rfl

/-- The session waits: it is the turn of no task in the background. -/
def Settled (session : Session) : Prop :=
  ∀ background, session.roster.awake.head? ≠ some (.background background)

theorem turns_of_awake {background : Background} {tail : List Party}
    (awake : session.roster.awake = .background background :: tail) :
    session.turns = (session.turnOf background).turns := by
  rw [turns]
  split
  · next first rest eq =>
    obtain ⟨⟨⟩, -⟩ := List.cons.inj (awake.symm.trans eq)
    rfl
  · next other => exact absurd awake (other _ _)

theorem turns_of_settled (settled : session.Settled) : session.turns = session := by
  rw [turns]
  split
  · next first rest eq => exact absurd (congrArg List.head? eq) (settled first)
  · rfl

end Session

/-- A property of the router's task, of the rounds that it has begun and of the roster
    that is kept by whatever happens to the roster.  The flag says whether the background
    has its turns, which may allow for more.  In the first fields the party is another
    than the router's; in the last ones it is the turn of the router. -/
structure Steady (P : Bool → Option HealthTask → List Begun → Roster → Prop) : Prop where
  wake {inTurn : Bool} {task : Option HealthTask} {begun : List Begun} {roster : Roster}
    {party : Party} (other : party ≠ .router) :
    P inTurn task begun roster → P inTurn task begun (roster.wake party)
  endTurn {inTurn : Bool} {task : Option HealthTask} {begun : List Begun} {roster : Roster}
    (other : roster.awake.head? ≠ some .router) :
    P inTurn task begun roster → P inTurn task begun roster.endTurn
  take {inTurn : Bool} {task : Option HealthTask} {begun : List Begun} {roster rest : Roster}
    {party : Party} (other : party ≠ .router) (taken : roster.take? party = some rest) :
    P inTurn task begun roster → P inTurn task begun rest
  join {inTurn : Bool} {task : Option HealthTask} {begun : List Begun} {roster : Roster}
    {party : Party} (other : party ≠ .router) :
    P inTurn task begun roster → P inTurn task begun (roster.join party)
  release {inTurn : Bool} {task : Option HealthTask} {begun : List Begun} {roster : Roster} :
    P inTurn task begun roster → P inTurn task begun roster.release
  sleep {inTurn : Bool} {task : Option HealthTask} {begun : List Begun} {roster : Roster}
    {party : Party} (other : party ≠ .router) (moment : Nat) :
    P inTurn task begun roster → P inTurn task begun (roster.sleep party moment)
  ring {inTurn : Bool} {task : Option HealthTask} {begun : List Begun} {roster : Roster}
    {moment : Nat} (next : roster.nextAlarm? = some moment) :
    P inTurn task begun roster → P inTurn task begun (roster.ring moment)
  dismiss {inTurn : Bool} {task : Option HealthTask} {begun : List Begun} {roster : Roster}
    {party : Party} (other : party ≠ .router) :
    P inTurn task begun roster → P inTurn task begun (roster.dismiss party)
  /-- the background begins its turns -/
  enter {task : Option HealthTask} {begun : List Begun} {roster : Roster} :
    P false task begun roster → P true task begun roster
  /-- it has ended them -/
  leave {task : Option HealthTask} {begun : List Begun} {roster : Roster}
    (other : roster.awake.head? ≠ some .router) :
    P true task begun roster → P false task begun roster
  /-- there is no task, and so nothing to do -/
  idles {begun : List Begun} {roster : Roster} (turn : roster.awake.head? = some .router) :
    P true none begun roster → P true none begun roster.endTurn
  /-- it is too early -/
  rests {task : HealthTask} {begun : List Begun} {roster : Roster}
    (turn : roster.awake.head? = some .router) (early : roster.now < task.wake) :
    P true (some task) begun roster →
    P true (some task) begun (roster.endTurn.sleep .router task.wake)
  /-- the lock is taken -/
  waits {task : HealthTask} {begun : List Begun} {roster : Roster}
    (turn : roster.awake.head? = some .router) (busy : task.current ≠ none) :
    P true (some task) begun roster → P true (some task) begun (roster.endTurn.join .router)
  /-- the lock is free, or was handed over -/
  takes {task : HealthTask} {begun : List Begun} {roster rest : Roster}
    (turn : roster.awake.head? = some .router) (taken : roster.take? .router = some rest) :
    P true (some task) begun roster → P true (some task) begun rest
  /-- the task does the next thing, which is due -/
  steps {session : Session} {task : HealthTask}
    (turn : session.roster.awake.head? = some .router) (running : session.router.task = some task)
    (due : task.wake ≤ session.roster.now) :
    session.Has (P true) → (session.stepTask .router task).Has (P true)

/-- A task that needs the lock has a round under way. -/
theorem HealthTask.current_ne_none_of_usesCache {ω : Type} {checker : Checker ω}
    {task : HealthTask} {client : Client ω} (h : task.usesCache checker client = true) :
    task.current ≠ none := by
  intro idle
  rw [usesCache, idle] at h
  cases h

namespace Steady

open Session

variable {P : Bool → Option HealthTask → List Begun → Roster → Prop} (steady : Steady P)
  {session : Session} {party : Party} {α : Type}
include steady

/-- A task in the background has its turn. -/
theorem turnOf {background : Background}
    (turn : session.roster.awake.head? = some (.background background))
    (h : session.Has (P true)) : (session.turnOf background).Has (P true) := by
  have other (own : background = .session) : session.roster.awake.head? ≠ some .router := by
    rw [turn, own]
    decide
  unfold Session.turnOf
  dsimp only
  split
  · next absent =>
    cases background with
    | router => exact (has_iff absent _).2 (steady.idles turn ((has_iff absent _).1 h))
    | session => exact steady.endTurn (other rfl) h
  · next task running =>
    split
    · next early =>
      cases background with
      | router => exact (has_iff running _).2 (steady.rests turn early ((has_iff running _).1 h))
      | session => exact steady.sleep (by decide) task.wake (steady.endTurn (other rfl) h)
    · next due =>
      have stepped (own : background = .router) :
          (session.stepTask background task).Has (P true) := by
        subst own
        exact steady.steps turn running (Nat.le_of_not_lt due) h
      split
      · next locked =>
        split
        · cases background with
          | router =>
            have busy := HealthTask.current_ne_none_of_usesCache locked
            exact (has_iff running _).2 (steady.waits turn busy ((has_iff running _).1 h))
          | session => exact steady.join (by decide) (steady.endTurn (other rfl) h)
        · next roster taken =>
          cases background with
          | router => exact steady.release (steady.takes turn taken (stepped rfl))
          | session => exact steady.release (steady.take (by decide) taken h)
      · cases background with
        | router => exact stepped rfl
        | session => exact h

/-- The background takes its turns, and leaves the next to someone else. -/
theorem turns_settled (h : session.Has (P true)) :
    session.turns.Has (P true) ∧ session.turns.Settled := by
  fun_induction Session.turns session with
  | case1 session background tail awake ih =>
    have turn : session.roster.awake.head? = some (.background background) := by
      rw [awake]
      rfl
    exact ih (steady.turnOf turn h)
  | case2 session settled =>
    refine ⟨h, fun background turn => ?_⟩
    obtain ⟨tail, awake⟩ := List.head?_eq_some_iff.1 turn
    exact settled background tail awake

theorem turns (h : session.Has (P false)) : session.turns.Has (P false) := by
  obtain ⟨kept, settled⟩ := steady.turns_settled (steady.enter h)
  exact steady.leave (settled .router) kept

/-- The turn that the background has left ends. -/
theorem endTurn_turns (h : session.Has (P false)) : session.turns.endTurn.Has (P false) :=
  steady.endTurn ((steady.turns_settled (steady.enter h)).2 .router) (steady.turns h)

theorem yield (other : party ≠ .router) (h : session.Has (P false)) :
    (session.yield party).Has (P false) :=
  steady.endTurn_turns (steady.wake other h)

theorem acquire (other : party ≠ .router) (h : session.Has (P false)) :
    (session.acquire party).Has (P false) := by
  unfold Session.acquire
  split
  · next taken => exact steady.take other taken h
  · exact steady.endTurn_turns (steady.join other h)

/-! ## The caller's deeds -/

theorem sleepUntil {stop now : Nat} (h : session.Has (P false)) :
    (session.sleepUntil stop now).Has (P false) := by
  fun_induction Session.sleepUntil stop now session with
  | case1 now session turned none => exact steady.endTurn_turns h
  | case2 now session turned moment next within ih => exact ih (steady.ring next (steady.turns h))
  | case3 now session turned moment next beyond => exact steady.endTurn_turns h

theorem sleepFor (other : party ≠ .router) (ms : Nat) (h : session.Has (P false)) :
    (session.sleep party ms).Has (P false) := by
  unfold Session.sleep
  split
  · exact h
  · exact steady.sleepUntil (steady.sleep other _ h)

theorem carryOut (other : party ≠ .router) (routine : Operation World α)
    (h : session.Has (P false)) : (session.carryOut party routine).2.Has (P false) := by
  induction routine generalizing session with
  | done => exact h
  | act change next ih => exact ih session.client h
  | acquire next ih => exact ih (steady.acquire other h)
  | release next ih => exact ih (steady.release h)
  | sleep ms next ih => exact ih (steady.sleepFor other ms h)

theorem perform (routine : Operation World α) (h : session.Has (P false)) :
    (session.perform routine).2.Has (P false) :=
  steady.carryOut (by decide) routine h

theorem lookupAll (delay : Nat) (keys : List Key) (h : session.Has (P false)) :
    (session.lookupAll delay keys).2.Has (P false) := by
  unfold Session.lookupAll
  split
  · exact h
  · have begun : (session.withScript { session.script with delay }).Has (P false) := h
    have counted := steady.perform (keys.forM fun _ => Routine.change (·.record .lookup))
      (steady.yield (by decide : Party.lookup ≠ .router) begun)
    refine steady.yield (by decide) (steady.release ?_)
    refine List.foldlRecOn keys _
      (motive := fun found : List (Except RouteError Region) × Session => found.2.Has (P false))
      (steady.acquire (by decide : Party.lookup ≠ .router) counted) ?_
    -- each lookup is carried out, and makes way for the background then
    intro found h key member
    exact steady.yield (by decide) (steady.carryOut (by decide) _ h)

theorem endTask (h : session.Has (P false)) : session.endTask.Has (P false) :=
  steady.dismiss (by decide) h

theorem startTask (interval : Nat) (h : session.Has (P false)) :
    (session.startTask interval).Has (P false) :=
  steady.yield (by decide) (steady.wake (by decide) (steady.endTask h))

/-- **Steadiness.** The property is kept as long as the session is used. -/
theorem used {later : Session} (used : session.Used later) (h : session.Has (P false)) :
    later.Has (P false) := by
  induction used with
  | unused => exact h
  | perform _ routine ih => exact steady.perform routine ih
  | lookupAll _ delay keys ih => exact steady.lookupAll delay keys ih
  | startTask _ interval ih => exact steady.startTask interval ih
  | endTask _ ih => exact steady.endTask ih
  | dropTask _ ih => exact steady.endTask ih
  | change _ client budget ih => exact ih

end Steady
end RegionRouting
