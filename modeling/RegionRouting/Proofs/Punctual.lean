/-
  Region routing — health checks stay alive.

  A router that forwards through proxies has a task that checks the health of its
  stores.  If the configured interval is one that a timer can have, the task runs
  until the router is closed, whatever the caller does meanwhile, and it is never
  behind: a round is under way, or the clock has not passed the next tick.  Each of
  its rounds takes up all that waits.

  * `HealthTask.KeepsTo`: the schedule of the rounds that a task has begun; its next
    step keeps to it (`HealthTask.KeepsTo.step`);
  * `Punctual`: what the roster and the task have to do with each other; each move
    keeps it (`steady_ticksOn`);
  * `Withdrawn`: the router has no task, and its party is not on the roster;
  * `health_checks_alive`: rounds are begun as long as the router is not closed, and
    not after it;
  * `Session.sleepWithin?` evaluates a sleep of few turns and alarms;
  * `unchecked_forever`: an interval of zero is no interval, and then nothing is
    ever checked.
-/
import RegionRouting.Proofs.Steady

namespace RegionRouting

/-! ## The roster -/

namespace Roster

variable {roster rest : Roster} {party other : Party} {moment moment' : Nat}

theorem awake_wake : (roster.wake party).awake =
    (roster.awake ++ [party]).filter (· ≠ .caller) ++
      (roster.awake ++ [party]).filter (· = .caller) := by
  simp [wake, List.partition_eq_filter_filter, Function.comp_def]

@[simp] theorem mem_awake_wake : other ∈ (roster.wake party).awake ↔
    other ∈ roster.awake ∨ other = party := by
  rw [awake_wake]
  by_cases caller : other = .caller <;> simp [caller]

/-- Who has the turn keeps it, unless it is the caller. -/
theorem head?_awake_wake (turn : roster.awake.head? = some other) (busy : other ≠ .caller) :
    (roster.wake party).awake.head? = some other := by
  obtain ⟨tail, awake⟩ := List.head?_eq_some_iff.1 turn
  rw [awake_wake, awake]
  simp [busy]

theorem take?_eq_some (h : roster.take? party = some rest) :
    rest = { roster with owner := some party } := by
  unfold take? at h
  exact (Option.some.inj (Option.ite_none_right_eq_some.1 h).2).symm

/-- To take off the roster who is not on it changes nothing. -/
theorem dismiss_of_absent (awake : party ∉ roster.awake) (line : party ∉ roster.line)
    (alarms : ∀ moment, (moment, party) ∉ roster.alarms) (owner : roster.owner ≠ some party) :
    roster.dismiss party = roster := by
  have awake' : roster.awake.filter (· ≠ party) = roster.awake :=
    List.filter_eq_self.2 fun other member =>
      decide_eq_true fun same : other = party => awake (same ▸ member)
  have line' : roster.line.filter (· ≠ party) = roster.line :=
    List.filter_eq_self.2 fun other member =>
      decide_eq_true fun same : other = party => line (same ▸ member)
  have alarms' : roster.alarms.filter (·.2 ≠ party) = roster.alarms :=
    List.filter_eq_self.2 fun alarm member =>
      decide_eq_true fun same : alarm.2 = party => alarms alarm.1 (same ▸ member)
  rw [dismiss, awake', line', alarms', if_neg owner]

/-- The lock is freed, or handed to the first who waits for it. -/
theorem release_cases (roster : Roster) :
    roster.line = [] ∧ roster.release = { roster with owner := none } ∨
    ∃ party line, roster.line = party :: line ∧
      roster.release = { roster with owner := some party, line }.wake party := by
  unfold release
  cases waiting : roster.line with
  | nil => exact .inl ⟨rfl, rfl⟩
  | cons party line => exact .inr ⟨party, line, rfl, rfl⟩

theorem nextAlarm?_eq_some (h : roster.nextAlarm? = some moment) : roster.awake = [] ∧
    ∀ alarm ∈ roster.alarms, moment ≤ alarm.1 := by
  obtain ⟨empty, next⟩ := Option.ite_none_right_eq_some.1 h
  obtain ⟨-, least⟩ := List.min?_eq_some_iff.1 next
  exact ⟨List.isEmpty_iff.1 empty, fun alarm member => least _ (List.mem_map_of_mem member)⟩

@[simp] theorem mem_awake_ring : party ∈ (roster.ring moment).awake ↔
    party ∈ roster.awake ∨ ∃ due ≤ moment, (due, party) ∈ roster.alarms := by
  by_cases caller : party = .caller <;>
    simp [ring, List.partition_eq_filter_filter, caller, and_comm]

@[simp] theorem mem_alarms_ring : (moment', party) ∈ (roster.ring moment).alarms ↔
    (moment', party) ∈ roster.alarms ∧ moment < moment' := by
  simp [ring, List.partition_eq_filter_filter]

end Roster

/-! ## The task -/

theorem HealthTask.wake_of_idle {task : HealthTask} (idle : task.current = none) :
    task.wake = task.nextTick := by
  rw [wake, idle]

namespace Session

variable {session : Session} {task : HealthTask}

theorem begun_stepTask (session : Session) (task : HealthTask) :
    (session.stepTask .router task).begun = session.begun ++ (session.beginning? task
      (task.step (session.checker .router) session.roster.now session.client).1).toList :=
  rfl

/-- What the task of a router does next while it is idle is to begin a round: it takes up
    every store that waits with the scheduler, and moves the timer on. -/
theorem begun_of_idle (session : Session) (idle : task.current = none) :
    let pending := session.client.scheduler.queue.values
    let waiting := (session.orders session.begun.length).arrange pending
    let next := session.stepTask .router task
    next.begun = session.begun ++ [⟨session.roster.now, pending, { waiting }⟩] ∧
      next.router.task = some { task with
        nextTick := task.nextTick + task.period
        current := some ({ waiting }, session.roster.now) } := by
  intro pending waiting next
  have stepped : task.step (session.checker .router) session.roster.now session.client =
      ({ task with
          nextTick := task.nextTick + task.period
          current := some ({ waiting }, session.roster.now) },
        (session.checker .router).setQueue {} session.client) := by
    rw [HealthTask.step, idle]
    rfl
  refine ⟨?_, ?_⟩
  · rw [begun_stepTask, stepped, beginning?, idle]
    rfl
  · exact congrArg (some ·.1) stepped

/-- A busy task begins no round, and leaves the timer. -/
theorem begun_of_busy (session : Session) (busy : task.current ≠ none) :
    let next := session.stepTask .router task
    next.begun = session.begun ∧
      ∃ current, next.router.task = some { task with current } := by
  obtain ⟨⟨round, resume⟩, under⟩ := Option.ne_none_iff_exists'.1 busy
  refine ⟨?_, ?_⟩
  · rw [begun_stepTask, beginning?, under]
    exact List.append_nil _
  · have stepped : ∃ current, (task.step (session.checker .router) session.roster.now
        session.client).1 = { task with current } := by
      rw [HealthTask.step, under]
      dsimp only
      split <;> exact ⟨_, rfl⟩
    obtain ⟨current, stepped⟩ := stepped
    exact ⟨current, congrArg some stepped⟩

/-- When it is the turn of an idle task, and a tick is due, the task begins its round. -/
theorem turns_of_idle (turn : session.roster.awake.head? = some .router)
    (running : session.task? .router = some task) (idle : task.current = none)
    (due : task.wake ≤ session.roster.now) :
    session.turns = (session.stepTask .router task).turns := by
  obtain ⟨tail, awake⟩ := List.head?_eq_some_iff.1 turn
  have unlocked : task.usesCache (session.checker .router) session.client = false := by
    rw [HealthTask.usesCache, idle]
  have stepped : session.turnOf .router = session.stepTask .router task := by
    simp only [turnOf, running, Nat.not_lt.2 due, unlocked, if_false, Bool.false_eq_true]
  rw [turns_of_awake awake, stepped]

end Session

/-- The task is the one that was started, ahead by a period for each round that it has
    begun.  None of these was begun before its tick, and each took up all that waited. -/
structure HealthTask.KeepsTo (started task : HealthTask) (begun : List Begun) : Prop where
  period : task.period = started.period
  ticks : task.nextTick = started.nextTick + begun.length * started.period
  busy : task.current ≠ none → begun ≠ []
  due {k : Nat} {round : Begun} : begun[k]? = some round →
    started.nextTick + k * started.period ≤ round.moment
  takesUp {round : Begun} : round ∈ begun → round.round.waiting.Perm round.pending

/-- What the task does next, when it is due, keeps to the schedule. -/
theorem HealthTask.KeepsTo.step {started task : HealthTask} {session : Session}
    (h : started.KeepsTo task session.begun) (due : task.wake ≤ session.roster.now) :
    ∃ next, (session.stepTask .router task).router.task = some next ∧
      started.KeepsTo next (session.stepTask .router task).begun := by
  by_cases idle : task.current = none
  · obtain ⟨begun, running⟩ := session.begun_of_idle idle
    refine ⟨_, running, begun ▸ ⟨h.period, ?_, fun _ => by simp, ?_, ?_⟩⟩
    · change task.nextTick + task.period = _
      rw [h.ticks, h.period, List.length_append, List.length_singleton, Nat.succ_mul,
        Nat.add_assoc]
    · intro k round found
      rw [List.getElem?_append] at found
      split at found
      · exact h.due found
      · next above =>
        obtain ⟨first, ⟨⟩⟩ := Option.ite_none_right_eq_some.1
          (List.getElem?_singleton.symm.trans found)
        have last : k = session.begun.length := by omega
        rw [wake_of_idle idle, h.ticks] at due
        exact last ▸ due
    · intro round among
      rcases List.mem_append.1 among with before | last
      · exact h.takesUp before
      · rw [List.mem_singleton.1 last]
        exact (session.orders session.begun.length).perm _
  · obtain ⟨begun, current, running⟩ := session.begun_of_busy idle
    refine ⟨_, running, ?_⟩
    rw [begun]
    exact ⟨h.period, h.ticks, fun _ => h.busy idle, h.due, h.takesUp⟩

/-! ## A punctual task -/

/-- While no round is under way, the clock has not passed the next tick, except that a
    tick which fell into a round is made up for in the turn that ends it.  And the party
    is awake, or sleeps until the task has something to do, or waits for the lock during
    a round. -/
structure Punctual (inTurn : Bool) (task : HealthTask) (roster : Roster) : Prop where
  inTime : task.current = none → roster.now ≤ task.nextTick ∨
    inTurn = true ∧ roster.awake.head? = some .router
  listed : .router ∈ roster.awake ∨ (task.wake, .router) ∈ roster.alarms ∧ roster.now < task.wake ∨
    task.current ≠ none ∧ .router ∈ roster.line

namespace Punctual

variable {moment : Nat} {inTurn : Bool} {task : HealthTask} {roster rest : Roster} {party : Party}
  (h : Punctual inTurn task roster)
include h

theorem wake : Punctual inTurn task (roster.wake party) where
  inTime idle := (h.inTime idle).imp_right fun ⟨busy, turn⟩ =>
    ⟨busy, Roster.head?_awake_wake turn (by decide)⟩
  listed := by
    simp only [Roster.mem_awake_wake]
    exact h.listed.imp_left .inl

/-- Who owns the lock is of no matter. -/
theorem withOwner (owner : Option Party) : Punctual inTurn task { roster with owner } :=
  ⟨h.inTime, h.listed⟩

/-- A party that waits for the lock longest is woken with it. -/
theorem release : Punctual inTurn task roster.release := by
  rcases roster.release_cases with ⟨-, eq⟩ | ⟨first, line, waiting, eq⟩
  · rw [eq]
    exact h.withOwner none
  · rw [eq]
    refine ⟨fun idle => (h.inTime idle).imp_right fun ⟨busy, turn⟩ =>
      ⟨busy, Roster.head?_awake_wake turn (by decide)⟩, ?_⟩
    simp only [Roster.mem_awake_wake]
    rcases h.listed with awake | asleep | ⟨busy, waits⟩
    · exact .inl (.inl awake)
    · exact .inr (.inl asleep)
    · rw [waiting] at waits
      rcases List.mem_cons.1 waits with here | later
      · exact .inl (.inr here)
      · exact .inr (.inr ⟨busy, later⟩)

theorem endTurn (other : roster.awake.head? ≠ some .router) :
    Punctual inTurn task roster.endTurn where
  inTime idle := (h.inTime idle).imp_right fun ⟨_, turn⟩ => absurd turn other
  listed := by
    refine h.listed.imp_left fun awake => ?_
    rw [Roster.endTurn]
    cases whole : roster.awake with
    | nil => simp [whole] at awake
    | cons first tail =>
      rw [whole] at awake other
      rcases List.mem_cons.1 awake with rfl | later
      · exact absurd rfl other
      · exact later

theorem join : Punctual inTurn task (roster.join party) where
  inTime := h.inTime
  listed := h.listed.imp_right (.imp_right fun ⟨busy, waits⟩ =>
    ⟨busy, List.mem_append_left _ waits⟩)

theorem sleep (moment : Nat) : Punctual inTurn task (roster.sleep party moment) where
  inTime := h.inTime
  listed := h.listed.imp_right (.imp_left fun ⟨set, early⟩ => ⟨List.mem_append_left _ set, early⟩)

/-- Time goes no further than the alarm of the party. -/
theorem ring (next : roster.nextAlarm? = some moment) :
    Punctual inTurn task (roster.ring moment) := by
  obtain ⟨nobody, least⟩ := Roster.nextAlarm?_eq_some next
  rcases h.listed with awake | ⟨set, -⟩ | ⟨busy, waits⟩
  · simp [nobody] at awake
  · have first : moment ≤ task.wake := least _ set
    refine ⟨fun idle => .inl (HealthTask.wake_of_idle idle ▸ first), ?_⟩
    rcases Nat.lt_or_eq_of_le first with before | rfl
    · exact .inr (.inl ⟨Roster.mem_alarms_ring.2 ⟨set, before⟩, before⟩)
    · exact .inl (Roster.mem_awake_ring.2 (.inr ⟨_, Nat.le_refl _, set⟩))
  · exact ⟨fun idle => absurd idle busy, .inr (.inr ⟨busy, waits⟩)⟩

/-- Another party is taken off the roster. -/
theorem dismiss (other : party ≠ .router) : Punctual inTurn task (roster.dismiss party) := by
  have filtered : Punctual inTurn task { roster with
      line := roster.line.filter (· ≠ party)
      awake := roster.awake.filter (· ≠ party)
      alarms := roster.alarms.filter (·.2 ≠ party) } := by
    constructor
    · intro idle
      rcases h.inTime idle with early | ⟨busy, turn⟩
      · exact .inl early
      · obtain ⟨tail, awake⟩ := List.head?_eq_some_iff.1 turn
        exact .inr ⟨busy, by simp [awake, other.symm]⟩
    · simpa [other.symm] using h.listed
  unfold Roster.dismiss
  dsimp only
  split
  · exact filtered.release
  · exact filtered

end Punctual

/-- The router has its task still; the task keeps to the schedule, and is punctual. -/
def TicksOn (started : HealthTask) (inTurn : Bool) (task? : Option HealthTask)
    (begun : List Begun) (roster : Roster) : Prop :=
  ∃ task, task? = some task ∧ started.KeepsTo task begun ∧ Punctual inTurn task roster

/-- **Punctuality.** Each move of the caller or of the background keeps the task to the
    schedule, and punctual. -/
theorem steady_ticksOn (started : HealthTask) : Steady (TicksOn started) where
  wake := fun _ ⟨task, same, keeps, h⟩ => ⟨task, same, keeps, h.wake⟩
  endTurn := fun other ⟨task, same, keeps, h⟩ => ⟨task, same, keeps, h.endTurn other⟩
  take := fun _ taken ⟨task, same, keeps, h⟩ =>
    ⟨task, same, keeps, Roster.take?_eq_some taken ▸ h.withOwner _⟩
  join := fun _ ⟨task, same, keeps, h⟩ => ⟨task, same, keeps, h.join⟩
  release := fun ⟨task, same, keeps, h⟩ => ⟨task, same, keeps, h.release⟩
  sleep := fun _ moment ⟨task, same, keeps, h⟩ => ⟨task, same, keeps, h.sleep moment⟩
  ring := fun next ⟨task, same, keeps, h⟩ => ⟨task, same, keeps, h.ring next⟩
  dismiss := fun other ⟨task, same, keeps, h⟩ => ⟨task, same, keeps, h.dismiss other⟩
  enter := by
    rintro task? begun roster ⟨task, same, keeps, h⟩
    refine ⟨task, same, keeps, fun idle => .inl ?_, h.listed⟩
    exact (h.inTime idle).resolve_right fun ⟨inTurn, _⟩ => nomatch inTurn
  leave := by
    rintro task? begun roster other ⟨task, same, keeps, h⟩
    refine ⟨task, same, keeps, fun idle => .inl ?_, h.listed⟩
    exact (h.inTime idle).resolve_right fun ⟨_, turn⟩ => other turn
  idles := fun _ ⟨_, same, _⟩ => nomatch same
  rests := by
    rintro task begun roster turn early ⟨_, ⟨⟩, keeps, -⟩
    refine ⟨task, rfl, keeps, fun idle => .inl ?_, .inr (.inl ⟨?_, early⟩)⟩
    · exact Nat.le_of_lt (HealthTask.wake_of_idle idle ▸ early)
    · exact List.mem_append_right _ (List.mem_singleton_self _)
  waits := by
    rintro task begun roster turn busy ⟨_, ⟨⟩, keeps, -⟩
    refine ⟨task, rfl, keeps, fun idle => absurd idle busy, .inr (.inr ⟨busy, ?_⟩)⟩
    exact List.mem_append_right _ (List.mem_singleton_self _)
  takes := fun _ taken ⟨task, same, keeps, h⟩ =>
    ⟨task, same, keeps, Roster.take?_eq_some taken ▸ h.withOwner _⟩
  steps := by
    rintro session task turn running due ⟨other, same, keeps, -⟩
    cases running.symm.trans same
    obtain ⟨next, stepped, keeps⟩ := keeps.step due
    refine ⟨next, stepped, keeps, fun _ => .inr ⟨rfl, ?_⟩, .inl ?_⟩
    · rw [Session.roster_stepTask, turn]
    · rw [Session.roster_stepTask]
      exact List.mem_of_head? turn

/-- A round that was begun once is not forgotten. -/
theorem steady_begun : Steady fun _ _ begun _ => begun ≠ [] where
  wake _ h := h
  endTurn _ h := h
  take _ _ h := h
  join _ h := h
  release h := h
  sleep _ _ h := h
  ring _ h := h
  dismiss _ h := h
  enter h := h
  leave _ h := h
  idles _ h := h
  rests _ _ h := h
  waits _ _ h := h
  takes _ _ h := h
  steps _ _ _ h := List.append_ne_nil_of_left_ne_nil h _

/-! ## A router without a task -/

/-- A router without a task begins no round. -/
theorem steady_untasked (noted : List Begun) :
    Steady fun _ task? begun _ => task? = none ∧ begun = noted where
  wake _ h := h
  endTurn _ h := h
  take _ _ h := h
  join _ h := h
  release h := h
  sleep _ _ h := h
  ring _ h := h
  dismiss _ h := h
  enter h := h
  leave _ h := h
  idles _ h := h
  rests := fun _ _ h => nomatch h.1
  waits := fun _ _ h => nomatch h.1
  takes := fun _ _ h => nomatch h.1
  steps := fun _ running _ h => nomatch running.symm.trans h.1

/-- The router has no task, and its party is not on the roster. -/
structure Withdrawn (inTurn : Bool) (task? : Option HealthTask) (roster : Roster) : Prop where
  task : task? = none
  awake : .router ∉ roster.awake
  line : .router ∉ roster.line
  alarms : ∀ moment, (moment, .router) ∉ roster.alarms
  owner : roster.owner ≠ some .router

namespace Withdrawn

variable {moment : Nat} {inTurn : Bool} {task? : Option HealthTask} {roster : Roster}
  {party : Party} (h : Withdrawn inTurn task? roster)
include h

/-- The turn of a task that is withdrawn does not come. -/
theorem head?_ne : roster.awake.head? ≠ some .router :=
  fun turn => h.awake (List.mem_of_head? turn)

theorem wake (other : party ≠ .router) : Withdrawn inTurn task? (roster.wake party) where
  task := h.task
  awake := by simp [h.awake, other.symm]
  line := h.line
  alarms := h.alarms
  owner := h.owner

theorem withOwner {owner : Option Party} (other : owner ≠ some .router) :
    Withdrawn inTurn task? { roster with owner } :=
  ⟨h.task, h.awake, h.line, h.alarms, other⟩

end Withdrawn

/-- Whoever else has the lock may give it back. -/
theorem withdrawn_release {inTurn : Bool} {task? : Option HealthTask} {roster : Roster}
    (task : task? = none) (awake : .router ∉ roster.awake) (line : .router ∉ roster.line)
    (alarms : ∀ moment, (moment, .router) ∉ roster.alarms) :
    Withdrawn inTurn task? roster.release := by
  rcases roster.release_cases with ⟨-, eq⟩ | ⟨first, rest, waiting, eq⟩
  · rw [eq]
    exact ⟨task, awake, line, alarms, nofun⟩
  · rw [waiting] at line
    have other : first ≠ .router := fun same => line (same ▸ List.mem_cons_self ..)
    have later : .router ∉ rest := fun waits => line (List.mem_cons_of_mem _ waits)
    have owned : some first ≠ some Party.router := fun same => other (Option.some.inj same)
    rw [eq]
    exact Withdrawn.wake ⟨task, awake, later, alarms, owned⟩ other

/-- To take a party off the roster may be to take off the router's. -/
theorem withdrawn_dismiss {inTurn : Bool} {task? : Option HealthTask} {roster : Roster}
    {party : Party} (task : task? = none) (h : party = .router ∨ Withdrawn inTurn task? roster) :
    Withdrawn inTurn task? (roster.dismiss party) := by
  have awake : .router ∉ roster.awake.filter (· ≠ party) := by
    rcases h with rfl | h
    · simp
    · simp [h.awake]
  have line : .router ∉ roster.line.filter (· ≠ party) := by
    rcases h with rfl | h
    · simp
    · simp [h.line]
  have alarms (moment : Nat) : (moment, .router) ∉ roster.alarms.filter (·.2 ≠ party) := by
    rcases h with rfl | h
    · simp
    · simp [h.alarms]
  unfold Roster.dismiss
  dsimp only
  split
  · exact withdrawn_release task awake line alarms
  · next other =>
    refine ⟨task, awake, line, alarms, fun owns => ?_⟩
    rcases h with rfl | h
    · exact other owns
    · exact h.owner owns

/-- Nothing brings the party of a closed router back. -/
theorem steady_withdrawn : Steady fun inTurn task? _ => Withdrawn inTurn task? where
  wake other h := h.wake other
  endTurn _ h := ⟨h.task, fun awake => h.awake (List.mem_of_mem_tail awake), h.line, h.alarms,
    h.owner⟩
  take other taken h := Roster.take?_eq_some taken ▸
    h.withOwner fun same => other (Option.some.inj same)
  join other h := ⟨h.task, h.awake, by simp [Roster.join, h.line, other.symm], h.alarms, h.owner⟩
  release h := withdrawn_release h.task h.awake h.line h.alarms
  sleep other moment h :=
    ⟨h.task, h.awake, h.line, by simp [Roster.sleep, h.alarms, other.symm], h.owner⟩
  ring _ h := ⟨h.task, by simp [h.awake, h.alarms], h.line, by simp [h.alarms], h.owner⟩
  dismiss _ h := withdrawn_dismiss h.task (.inr h)
  enter h := ⟨h.task, h.awake, h.line, h.alarms, h.owner⟩
  leave _ h := ⟨h.task, h.awake, h.line, h.alarms, h.owner⟩
  idles turn h := absurd turn h.head?_ne
  rests := fun _ _ h => nomatch h.task
  waits := fun _ _ h => nomatch h.task
  takes := fun _ _ h => nomatch h.task
  steps := fun _ running _ h => nomatch running.symm.trans h.task

/-! ## Sessions -/

namespace Session

/-- To close a session takes the router's party off the roster. -/
theorem withdrawn_close (session : Session) :
    session.close.Has fun task? _ => Withdrawn false task? :=
  withdrawn_dismiss rfl (.inl rfl)

/-- To close a session again changes nothing. -/
theorem close_of_withdrawn {session : Session}
    (h : session.Has fun task? _ => Withdrawn false task?) : session.close = session := by
  obtain ⟨router, ownsScheduler, handle, budget, roster, orders, begun⟩ := session
  obtain ⟨config, client, task⟩ := router
  obtain rfl : task = none := h.task
  rw [close, Router.close, Roster.dismiss_of_absent h.awake h.line h.alarms h.owner]

end Session

/-- The period of health checks in milliseconds. -/
def RoutingConfig.interval (config : RoutingConfig) : Nat :=
  config.healthCheckIntervalSecs.toNat * 1000

/-- A timer can have the interval: it is not zero, and a clock reaches its end. -/
def RoutingConfig.CanTick (config : RoutingConfig) : Prop :=
  0 < config.interval ∧ config.interval < HealthTask.horizon

instance (config : RoutingConfig) : Decidable config.CanTick :=
  inferInstanceAs (Decidable (_ ∧ _))

/-- A session with a router, to begin with, and the orders in which its queues will be
    drained. -/
def Session.opened (config : RoutingConfig) (subscribed : Bool) (world : World)
    (ownsScheduler : Bool) (orders : Nat → DrainOrder) : Session :=
  { start (Router.startForwarding config subscribed 0 world) ownsScheduler with orders }

section
variable {config : RoutingConfig} (forwards : config.enableForwarding = true) (subscribed : Bool)
  (world : World) (ownsScheduler : Bool) (orders : Nat → DrainOrder)
include forwards

theorem Session.task_opened : (opened config subscribed world ownsScheduler orders).router.task =
    HealthTask.start? 0 config.interval := by
  rw [opened, start, Router.startForwarding, if_pos forwards]
  rfl

theorem Session.ticksOn_opened {started : HealthTask}
    (starts : HealthTask.start? 0 config.interval = some started)
    (fresh : started.current = none) :
    (opened config subscribed world ownsScheduler orders).Has (TicksOn started false) := by
  rw [Has, task_opened forwards, starts]
  have awake : .router ∈ (opened config subscribed world ownsScheduler orders).roster.awake :=
    Roster.mem_awake_wake.2 (.inr rfl)
  refine ⟨started, rfl, ?_, fun _ => .inl (Nat.zero_le _), .inl awake⟩
  exact ⟨rfl, by simp [opened, start], fun busy => absurd fresh busy, nofun, nofun⟩

theorem Session.untasked_opened (impossible : ¬config.CanTick) :
    (opened config subscribed world ownsScheduler orders).router.task = none := by
  rw [task_opened forwards, HealthTask.start?, dif_neg]
  rwa [Nat.zero_add]

end

/-- The first tick is one interval after the start. -/
theorem RoutingConfig.CanTick.starts {config : RoutingConfig} (possible : config.CanTick) :
    ∃ started, HealthTask.start? 0 config.interval = some started ∧
      started.period = config.interval ∧ started.nextTick = config.interval ∧
      started.current = none := by
  have bounds : 0 < config.interval ∧ 0 + config.interval < HealthTask.horizon := by
    rwa [Nat.zero_add]
  rw [HealthTask.start?, dif_pos bounds]
  exact ⟨_, rfl, rfl, Nat.zero_add _, rfl⟩

/-! ## The life of a task -/

/-- The turns of all who are awake before a party end. -/
def Roster.passTo (roster : Roster) (party : Party) : Roster :=
  { roster with awake := roster.awake.dropWhile (· ≠ party) }

theorem Roster.head?_passTo {roster : Roster} {party : Party} (h : party ∈ roster.awake) :
    (roster.passTo party).awake.head? = some party := by
  rw [passTo]
  generalize roster.awake = awake at h ⊢
  dsimp only
  induction awake with
  | nil => cases h
  | cons first rest ih =>
    by_cases here : first = party
    · simp [here]
    · rcases List.mem_cons.1 h with same | later
      · exact absurd same.symm here
      · simpa [here] using ih later

section
variable {session : Session} {started task : HealthTask} {roster : Roster}

/-- A task that has begun no round is idle, and stands at its first tick. -/
theorem HealthTask.KeepsTo.of_unbegun (keeps : started.KeepsTo task []) :
    task.current = none ∧ task.nextTick = started.nextTick := by
  refine ⟨Classical.not_not.1 fun busy => keeps.busy busy rfl, ?_⟩
  rw [keeps.ticks, List.length_nil, Nat.zero_mul, Nat.add_zero]

/-- Between turns, the clock has not passed the next tick of an idle task. -/
theorem Punctual.now_le (h : Punctual false task roster) (idle : task.current = none) :
    roster.now ≤ task.nextTick :=
  (h.inTime idle).resolve_right fun ⟨inTurn, _⟩ => nomatch inTurn

/-- Between turns, an idle task whose tick has come is awake. -/
theorem Punctual.awake_of_due (h : Punctual false task roster) (idle : task.current = none)
    (due : task.nextTick ≤ roster.now) : .router ∈ roster.awake := by
  rcases h.listed with awake | ⟨-, early⟩ | ⟨busy, -⟩
  · exact awake
  · rw [HealthTask.wake_of_idle idle] at early
    exact absurd due (Nat.not_le.2 early)
  · exact absurd idle busy

/-- When it is the turn of a task that has begun no round, and its first tick has come, it
    begins one. -/
theorem Session.begins_of_turn (running : session.router.task = some task)
    (keeps : started.KeepsTo task session.begun)
    (turn : session.roster.awake.head? = some .router)
    (due : started.nextTick ≤ session.roster.now) : session.turns.begun ≠ [] := by
  by_cases unbegun : session.begun = []
  · obtain ⟨idle, first⟩ := (unbegun ▸ keeps).of_unbegun
    have begun : (session.stepTask .router task).begun ≠ [] := by
      rw [(session.begun_of_idle idle).1]
      simp
    rw [turns_of_idle turn running idle (by rwa [HealthTask.wake_of_idle idle, first])]
    exact (steady_begun.turns_settled begun).1
  · exact (steady_begun.turns_settled unbegun).1

/-- Past its first tick a task has begun a round. -/
theorem Session.begun_of_late (keeps : started.KeepsTo task session.begun)
    (punctual : Punctual false task session.roster)
    (late : started.nextTick < session.roster.now) : session.begun ≠ [] := by
  intro unbegun
  obtain ⟨idle, first⟩ := (unbegun ▸ keeps).of_unbegun
  exact absurd (first ▸ punctual.now_le idle) (Nat.not_le.2 late)

/-- At its first tick a task has begun a round, or is awake and begins one in its turn. -/
theorem Session.begins_on_tick (running : session.router.task = some task)
    (keeps : started.KeepsTo task session.begun) (punctual : Punctual false task session.roster)
    (sharp : started.nextTick = session.roster.now) : session.begun ≠ [] ∨
      .router ∈ session.roster.awake ∧
        { session with roster := session.roster.passTo .router }.turns.begun ≠ [] := by
  by_cases unbegun : session.begun = []
  · obtain ⟨idle, first⟩ := (unbegun ▸ keeps).of_unbegun
    have awake := punctual.awake_of_due idle (Nat.le_of_eq (first.trans sharp))
    have turn := Roster.head?_passTo awake
    exact .inr ⟨awake, begins_of_turn running keeps turn (Nat.le_of_eq sharp)⟩
  · exact .inl unbegun

end

/-- **Health checks stay alive.** A router that forwards is started with an interval that
    a timer can have.  As long as it is not closed, it has the task that was started.  Each
    round that the task begins takes up every store that waits then, and none is begun
    before its tick.  Once more time than the interval has passed since the start, a round
    was begun; at the very moment one is begun when it is the turn of the task.  While no
    round is under way, there was one for each tick that the clock has passed.  With any
    other interval there is never a task, and no round.  Once the router is closed there is
    no task, no round is begun, and to close it again changes nothing. -/
theorem health_checks_alive {config : RoutingConfig} (forwards : config.enableForwarding = true)
    (subscribed : Bool) (world : World) (ownsScheduler : Bool) (orders : Nat → DrainOrder)
    {session : Session}
    (used : (Session.opened config subscribed world ownsScheduler orders).Used session) :
    (config.CanTick → ∃ task, session.router.task = some task ∧ task.period = config.interval ∧
      task.nextTick = (session.begun.length + 1) * config.interval ∧
      (∀ round ∈ session.begun, round.round.waiting.Perm round.pending) ∧
      (∀ k round, session.begun[k]? = some round → (k + 1) * config.interval ≤ round.moment) ∧
      (config.interval < session.roster.now → session.begun ≠ []) ∧
      (config.interval = session.roster.now → session.begun ≠ [] ∨
        .router ∈ session.roster.awake ∧
          { session with roster := session.roster.passTo .router }.turns.begun ≠ []) ∧
      (task.current = none →
        session.roster.now ≤ (session.begun.length + 1) * config.interval)) ∧
    (¬config.CanTick → session.router.task = none ∧ session.begun = []) ∧
    ∀ later, session.close.Used later →
      later.router.task = none ∧ later.begun = session.begun ∧ later.close = later := by
  refine ⟨fun possible => ?_, fun impossible => ?_, fun later closed => ?_⟩
  · obtain ⟨started, starts, period, first, fresh⟩ := possible.starts
    obtain ⟨task, running, keeps, punctual⟩ := (steady_ticksOn started).used used
      (Session.ticksOn_opened forwards subscribed world ownsScheduler orders starts fresh)
    have tick (k : Nat) : started.nextTick + k * started.period = (k + 1) * config.interval := by
      rw [first, period, Nat.succ_mul, Nat.add_comm]
    have next : task.nextTick = (session.begun.length + 1) * config.interval := by
      rw [keeps.ticks, tick]
    refine ⟨task, running, keeps.period.trans period, next, fun round => keeps.takesUp,
      fun k round found => tick k ▸ keeps.due found, ?_, ?_, fun idle => ?_⟩
    · exact first ▸ Session.begun_of_late keeps punctual
    · exact first ▸ Session.begins_on_tick running keeps punctual
    · exact next ▸ punctual.now_le idle
  · have untasked :=
      Session.untasked_opened forwards subscribed world ownsScheduler orders impossible
    exact (steady_untasked []).used used ⟨untasked, rfl⟩
  · have withdrawn := steady_withdrawn.used closed session.withdrawn_close
    obtain ⟨untasked, noted⟩ := (steady_untasked session.begun).used closed ⟨rfl, rfl⟩
    exact ⟨untasked, noted, Session.close_of_withdrawn withdrawn⟩

/-! ## Sessions that can be evaluated -/

namespace Session

/-- Lets the background take its turns, but no more than so many. -/
def turnsFor : Nat → Session → Session
  | 0, session => session
  | turns + 1, session =>
    match session.roster.awake with
    | .background background :: _ => turnsFor turns (session.turnOf background)
    | _ => session

theorem turns_turnsFor (turns : Nat) (session : Session) :
    (session.turnsFor turns).turns = session.turns := by
  induction turns generalizing session with
  | zero => rfl
  | succ turns ih =>
    rw [turnsFor]
    split
    · next background tail awake => rw [ih, turns_of_awake awake]
    · rfl

instance : DecidablePred Settled := fun session =>
  decidable_of_iff (session.roster.awake.head? ≠ some (.background .router) ∧
      session.roster.awake.head? ≠ some (.background .session))
    ⟨fun ⟨router, own⟩ background => by cases background <;> assumption,
      fun settled => ⟨settled .router, settled .session⟩⟩

/-- Sleeps like `sleepUntil`, if no more alarms ring than so many and the background takes
    no more turns at each than so many.  Unlike that, it can be evaluated. -/
def sleepWithin? (turns stop : Nat) : Nat → Nat → Session → Option Session
  | 0, _, _ => none
  | alarms + 1, now, session =>
    let session := session.turnsFor turns
    if session.Settled then
      match session.roster.nextAlarm? with
      | none => some session.endTurn
      | some moment =>
        if now < moment ∧ moment ≤ stop then
          sleepWithin? turns stop alarms moment
            { session with roster := session.roster.ring moment }
        else
          some session.endTurn
    else
      none

theorem sleepUntil_of_sleepWithin {turns stop alarms now : Nat} {session rest : Session}
    (h : session.sleepWithin? turns stop alarms now = some rest) :
    session.sleepUntil stop now = rest := by
  induction alarms generalizing now session with
  | zero => cases h
  | succ alarms ih =>
    rw [sleepWithin?] at h
    split at h
    · next settled =>
      have turned : session.turns = session.turnsFor turns := by
        rw [← turns_turnsFor turns, turns_of_settled settled]
      rw [sleepUntil, turned]
      revert h
      cases (session.turnsFor turns).roster.nextAlarm? with
      | none => exact Option.some.inj
      | some moment =>
        dsimp only
        by_cases within : now < moment ∧ moment ≤ stop
        · rw [if_pos within, if_pos within]
          exact ih
        · rw [if_neg within, if_neg within]
          exact Option.some.inj
    · cases h

/-- Lets some milliseconds pass like `advance`, with no more turns and alarms than so many. -/
def advanceWithin? (turns alarms ms : Nat) (session : Session) : Option Session :=
  let now := session.roster.now
  { session with roster := session.roster.sleep .caller (now + ms) }.sleepWithin? turns (now + ms)
    alarms now

theorem advance_of_advanceWithin {turns alarms ms : Nat} {session rest : Session} (later : ms ≠ 0)
    (h : session.advanceWithin? turns alarms ms = some rest) : session.advance ms = rest := by
  rw [advance, sleep, if_neg later]
  exact sleepUntil_of_sleepWithin h

end Session

/-! ## One second, and none at all -/

/-- A node that answers probes, and its store behind a proxy. -/
def loneNode : Store :=
  .direct { id := ⟨1⟩, address := "node", labels := [], state := .up } 0

def loneProxied : Store :=
  .forwarded loneNode.descriptor 1 loneNode

def loneWorld : World where
  world :=
    { stores := (∅ : Std.ExtTreeMap StoreId StoreDescriptor).insert ⟨1⟩ loneNode.descriptor
      answering := (∅ : Std.ExtTreeSet StoreId).insert ⟨1⟩ }

/-- A configuration that forwards, with so many seconds between health checks. -/
def everySeconds (seconds : UInt64) : RoutingConfig where
  healthCheckIntervalSecs := seconds
  enableForwarding := true

/-- A session of which every queue is drained by ascending id. -/
def loneSession (seconds : UInt64) : Session :=
  Session.opened (everySeconds seconds) false loneWorld false fun _ => .ascending

/-- The node is looked up and put behind a proxy. -/
def proxied (seconds : UInt64) : Session :=
  let session := loneSession seconds
  let session := (session.request (.storeById ⟨1⟩)).2
  let session := (session.create (loneNode.forwardThrough loneNode)).2
  (session.perform (Operation.updateStore loneNode loneProxied)).2

/-- Some milliseconds pass after the node is behind its proxy. -/
def waited (seconds : UInt64) (ms : Nat) : Session :=
  (proxied seconds).advance ms

theorem used_waited (seconds : UInt64) (ms : Nat) :
    (loneSession seconds).Used (waited seconds ms) :=
  (((Session.Used.unused.request _).create _).perform _).advance ms

/-- What a session shows of its health checks: the time, the stores that wait with the
    scheduler, those that were probed, and of each round begun when that was and which
    stores waited then. -/
structure Glimpse where
  now : Nat
  waiting : List Store
  probed : List StoreId
  begun : List (Nat × List Store)
  deriving DecidableEq

def glimpse (session : Session) : Glimpse where
  now := session.roster.now
  waiting := session.client.scheduler.queue.values
  probed := session.client.world.probed
  begun := session.begun.map fun round => (round.moment, round.pending)

theorem glimpse_waited {seen : Glimpse} {seconds : UInt64} {ms : Nat} (later : ms ≠ 0)
    (h : ((proxied seconds).advanceWithin? 9 3 ms).map glimpse = some seen) :
    glimpse (waited seconds ms) = seen := by
  obtain ⟨rest, within, rfl⟩ := Option.map_eq_some_iff.1 h
  rw [waited, Session.advance_of_advanceWithin later within]

/-- With a second between health checks, the proxied store was taken up at the first tick,
    and was probed.  After one second sharp the caller wakes first, and the round begins
    when the task has its turn. -/
theorem everySecond_checked : (everySeconds 1).enableForwarding = true ∧
    (∀ ms, (loneSession 1).Used (waited 1 ms)) ∧
    (everySeconds 1).CanTick ∧ (waited 1 1500).roster.now = 1500 ∧
    (∃ round, (waited 1 1500).begun = [round] ∧ round.moment = 1000 ∧
      round.pending = [loneProxied] ∧ round.round.waiting.Perm [loneProxied] ∧
      (waited 1 1500).client.world.probed = [⟨1⟩]) ∧
    (waited 1 1000).roster.now = 1000 ∧ (waited 1 1000).begun = [] ∧
    { waited 1 1000 with roster := (waited 1 1000).roster.passTo .router }.turns.begun ≠ [] := by
  have possible : (everySeconds 1).CanTick := by decide
  have alive (ms : Nat) := (health_checks_alive (rfl : (everySeconds 1).enableForwarding = true)
    false loneWorld false (fun _ => .ascending) (used_waited 1 ms)).1 possible
  have late : glimpse (waited 1 1500) = ⟨1500, [], [⟨1⟩], [(1000, [loneProxied])]⟩ :=
    glimpse_waited (by decide) (by decide +kernel)
  have sharp : glimpse (waited 1 1000) = ⟨1000, [loneProxied], [], []⟩ :=
    glimpse_waited (by decide) (by decide +kernel)
  simp only [glimpse, Glimpse.mk.injEq, Prod.mk.injEq, List.map_eq_nil_iff,
    List.map_eq_singleton_iff] at late sharp
  obtain ⟨now, -, probed, round, begun, moment, pending⟩ := late
  obtain ⟨now', -, -, unbegun⟩ := sharp
  refine ⟨rfl, used_waited 1, possible, now, ⟨round, begun, moment, pending, ?_, probed⟩, now',
    unbegun, ?_⟩
  · obtain ⟨_, -, -, -, takesUp, -⟩ := alive 1500
    exact pending ▸ takesUp round (by simp [begun])
  · obtain ⟨_, -, -, -, -, -, -, begins, -⟩ := alive 1000
    exact ((begins now'.symm).resolve_left fun begun => begun unbegun).2

/-- With none, the proxied store still waits to be probed, and there is no task. -/
theorem unchecked_forever : (everySeconds 0).enableForwarding = true ∧
    (loneSession 0).Used (waited 0 1500) ∧
    (waited 0 1500).roster.now = 1500 ∧ (waited 0 1500).router.task = none ∧
    (waited 0 1500).begun = [] ∧
    (waited 0 1500).client.scheduler.queue.values = [loneProxied] ∧
    (waited 0 1500).client.world.probed = [] := by
  have untasked := Session.untasked_opened (rfl : (everySeconds 0).enableForwarding = true) false
    loneWorld false (fun _ => .ascending) (by decide)
  obtain ⟨none, unbegun⟩ := (steady_untasked []).used (used_waited 0 1500) ⟨untasked, rfl⟩
  have late : glimpse (waited 0 1500) = ⟨1500, [loneProxied], [], []⟩ :=
    glimpse_waited (by decide) (by decide +kernel)
  simp only [glimpse, Glimpse.mk.injEq] at late
  obtain ⟨now, waiting, probed, -⟩ := late
  exact ⟨rfl, used_waited 0 1500, now, none, unbegun, waiting, probed⟩

end RegionRouting
