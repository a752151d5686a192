/-
  Region routing — whose turn it is.

  One caller and the health checks in the background take turns on a single
  thread: each goes on until it sleeps or has to wait for the lock.  The lock
  is fair: who gives it back hands it to the one that has waited longest.  Time
  stands still while someone is awake, and then goes to the next alarm.

  * `Roster.wake` and `Roster.endTurn` begin and end a turn;
  * `Roster.take?`, `Roster.join` and `Roster.release` are what happens to the
    lock;
  * `Roster.sleep` and `Roster.ring` are what happens to those who sleep.

  Times are in milliseconds.
-/
namespace RegionRouting

/-- The health checks in the background: those of the router, and those that
    the session has started on its own. -/
inductive Background where
  | router
  | session
  deriving DecidableEq

/-- Who takes turns.  A lookup is one that the caller has started beside
    others; the caller waits for it. -/
inductive Party where
  | caller
  | lookup
  | background (task : Background)
  deriving DecidableEq

/-- The time, the owner of the lock, those who wait for it, those who are awake
    and wait for their turn, and those who sleep with the moments at which they
    wake; each in the order in which they came. -/
structure Roster where
  now : Nat := 0
  owner : Option Party := none
  line : List Party := []
  awake : List Party := []
  alarms : List (Nat × Party) := []

namespace Roster

/-! ## Turns -/

/-- Lets a party take its turn after those who are awake, but before the
    caller: it goes on when nobody else is awake. -/
def wake (roster : Roster) (party : Party) : Roster :=
  let (caller, others) := (roster.awake ++ [party]).partition (· = .caller)
  { roster with awake := others ++ caller }

/-- Ends the turn of the first who is awake. -/
def endTurn (roster : Roster) : Roster :=
  { roster with awake := roster.awake.tail }

/-! ## The lock -/

/-- Gives the lock to a party, if it is free or was already handed to it. -/
def take? (roster : Roster) (party : Party) : Option Roster :=
  if roster.owner = none ∨ roster.owner = some party then
    some { roster with owner := some party }
  else
    none

theorem now_of_take? {roster rest : Roster} {party : Party} (h : roster.take? party = some rest) :
    rest.now = roster.now := by
  unfold take? at h
  split at h
  · cases h
    rfl
  · cases h

/-- Lets a party wait for the lock. -/
def join (roster : Roster) (party : Party) : Roster :=
  { roster with line := roster.line ++ [party] }

/-- Frees the lock, or hands it to the first who waits for it. -/
def release (roster : Roster) : Roster :=
  match roster.line with
  | [] => { roster with owner := none }
  | party :: line => { roster with owner := some party, line }.wake party

@[simp] theorem now_release (roster : Roster) : roster.release.now = roster.now := by
  unfold release
  split <;> rfl

/-! ## Sleeping -/

/-- Lets a party sleep. -/
def sleep (roster : Roster) (party : Party) (moment : Nat) : Roster :=
  { roster with alarms := roster.alarms ++ [(moment, party)] }

/-- The moment of the next alarm, if nobody is awake before. -/
def nextAlarm? (roster : Roster) : Option Nat :=
  if roster.awake.isEmpty then (roster.alarms.map (·.1)).min? else none

/-- Lets time go to a moment, and wakes those whose alarm it is: this time the
    caller first, and the others in the order in which they went to sleep. -/
def ring (roster : Roster) (moment : Nat) : Roster :=
  let (due, alarms) := roster.alarms.partition (·.1 ≤ moment)
  let (first, rest) := (due.map (·.2)).partition (· = .caller)
  { roster with now := moment, alarms, awake := roster.awake ++ first ++ rest }

/-- Takes a party off the roster. -/
def dismiss (roster : Roster) (party : Party) : Roster :=
  let roster := { roster with
    line := roster.line.filter (· ≠ party)
    awake := roster.awake.filter (· ≠ party)
    alarms := roster.alarms.filter (·.2 ≠ party) }
  if roster.owner = some party then roster.release else roster

end Roster
end RegionRouting
