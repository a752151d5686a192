/-
  Region routing — the periodic health check.

  A task starts a round of health checks at every tick of a timer: the first
  tick is one period after the start, and ticks that fall into a round are made
  up for once it is over.  Rounds may sleep, so a task may stand in the middle
  of one; what becomes of the client meanwhile is not up to it.

  * `HealthTask.start?` starts a task, or fails to: a timer needs a period, and
    a clock that reaches its first tick;
  * `HealthTask.wake` is the moment at which the task has something to do, and
    `HealthTask.step` does the next thing then;
  * `step_lt`: so a task has only so much to do at one moment.

  Times are in milliseconds.
-/
import RegionRouting.Health.Checker

namespace RegionRouting

/-- A running task: the period of its timer, the next tick, and the round
    under way with the moment at which it goes on. -/
structure HealthTask where
  period : Nat
  nextTick : Nat
  current : Option (Round × Nat) := none
  period_pos : 0 < period

namespace HealthTask

/-- No clock reaches this moment: seconds are counted in signed 64-bit words. -/
def horizon : Nat :=
  (1 <<< 63) * 1000

/-- Starts a task, if the timer has a period and the clock reaches its first
    tick. -/
def start? (now interval : Nat) : Option HealthTask :=
  if h : 0 < interval ∧ now + interval < horizon then
    some { period := interval, nextTick := now + interval, period_pos := h.1 }
  else
    none

/-- The moment at which the task has something to do. -/
def wake (task : HealthTask) : Nat :=
  match task.current with
  | some (_, resume) => resume
  | none => task.nextTick

/-- A bound on the ticks that are due by now. -/
def ticksDue (now : Nat) (task : HealthTask) : Nat :=
  now + 1 - task.nextTick

/-- A bound on the steps to the end of the round under way. -/
def work (task : HealthTask) : Nat :=
  match task.current with
  | some (round, _) => round.work + 1
  | none => 0

variable {ω : Type}

/-- Does the task have to hold the lock for what it does next? -/
def usesCache (checker : Checker ω) (task : HealthTask) (client : Client ω) : Bool :=
  match task.current with
  | some (round, _) => !round.isOver && (round.usesCache || (checker.others round).acquires client)
  | none => false

variable [Authority ω] [Prober ω]

/-- Does the next thing: begins a round of a checker, makes one step of it, or
    ends it. -/
def step (checker : Checker ω) (now : Nat) (task : HealthTask) (client : Client ω) :
    HealthTask × Client ω :=
  match task.current with
  | none =>
    let (round, client) := checker.begin client
    ({ task with nextTick := task.nextTick + task.period, current := some (round, now) }, client)
  | some (round, _) =>
    if round.isOver then
      ({ task with current := none }, checker.finish round client)
    else
      let next := round.step ((checker.others round).run client).2
      ({ task with current := some (next.2.1, now + next.1) }, next.2.2)

/-- A task that does something is left with fewer ticks, or with less of its
    round and no more ticks. -/
theorem step_lt (checker : Checker ω) {now : Nat} {task : HealthTask} (h : task.wake ≤ now)
    (client : Client ω) :
    let rest := (task.step checker now client).1
    rest.ticksDue now < task.ticksDue now ∨
      rest.ticksDue now = task.ticksDue now ∧ rest.work < task.work := by
  obtain ⟨period, nextTick, current, period_pos⟩ := task
  cases current with
  | none =>
    left
    simp only [wake] at h
    simp only [step, ticksDue]
    omega
  | some current =>
    obtain ⟨round, resume⟩ := current
    right
    simp only [step]
    split
    · simp [ticksDue, work]
    · next unfinished =>
      have := Round.work_step_lt (by simpa using unfinished) ((checker.others round).run client).2
      simpa [ticksDue, work] using this

end HealthTask
end RegionRouting
