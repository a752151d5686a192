/-
  Region routing — routines.

  A `Routine σ α` works on a state of type `σ` that it shares with others.  It
  may sleep, and it may ask for the one lock on the state and wait until it is
  its turn; meanwhile others change the state.  What it does between two such
  moments happens without interruption.

  * `perform` acts on the state, and `exclusively` holds the lock meanwhile;
  * `run` is the routine on its own: nobody competes for the lock, and nothing
    happens while it sleeps;
  * `acquires` says whether it will ask for the lock;
  * `run_bind`: one routine after the other runs as the first and then the
    second.
-/
namespace RegionRouting

/-- What someone does to a state of type `σ`, one step at a time. -/
inductive Routine (σ α : Type) where
  | done (result : α)
  /-- changes the state, and goes on with what it was before -/
  | act (change : σ → σ) (next : σ → Routine σ α)
  /-- takes the lock, as soon as it may -/
  | acquire (next : Routine σ α)
  /-- gives the lock back -/
  | release (next : Routine σ α)
  | sleep (ms : Nat) (next : Routine σ α)

namespace Routine

variable {σ α β : Type}

/-! ## One routine after another -/

/-- Goes on with the result of a routine. -/
def bind : Routine σ α → (α → Routine σ β) → Routine σ β
  | done result, next => next result
  | act change rest, next => act change fun old => (rest old).bind next
  | acquire rest, next => acquire (rest.bind next)
  | release rest, next => release (rest.bind next)
  | sleep ms rest, next => sleep ms (rest.bind next)

instance : Monad (Routine σ) where
  pure := done
  bind := bind

instance : LawfulMonad (Routine σ) :=
  LawfulMonad.mk' (Routine σ)
    (fun routine => by
      induction routine with
      | done => rfl
      | act change _ ih => exact congrArg (act change) (funext ih)
      | acquire _ ih => exact congrArg acquire ih
      | release _ ih => exact congrArg release ih
      | sleep ms _ ih => exact congrArg (sleep ms) ih)
    (fun _ _ => rfl)
    (fun routine _ _ => by
      induction routine with
      | done => rfl
      | act change _ ih => exact congrArg (act change) (funext ih)
      | acquire _ ih => exact congrArg acquire ih
      | release _ ih => exact congrArg release ih
      | sleep ms _ ih => exact congrArg (sleep ms) ih)

/-! ## Simple routines -/

/-- Acts on the state once. -/
def perform (f : σ → α × σ) : Routine σ α :=
  act (fun state => (f state).2) fun old => done (f old).1

/-- Reads from the state. -/
def read (view : σ → α) : Routine σ α :=
  perform fun state => (view state, state)

/-- Changes the state. -/
def change (f : σ → σ) : Routine σ Unit :=
  perform fun state => ((), f state)

/-- Sleeps for some milliseconds. -/
def pause (ms : Nat) : Routine σ Unit :=
  sleep ms (done ())

/-- Holds the lock during a routine. -/
def exclusively (routine : Routine σ α) : Routine σ α :=
  acquire (routine.bind fun result => release (done result))

/-- Acts on the state once, under the lock. -/
def atomically (f : σ → α × σ) : Routine σ α :=
  exclusively (perform f)

/-! ## On its own -/

/-- Runs a routine that has the state to itself. -/
def run : Routine σ α → σ → α × σ
  | done result, state => (result, state)
  | act change next, state => (next state).run (change state)
  | acquire next, state | release next, state | sleep _ next, state => next.run state

/-- Will the routine ask for the lock, if it has the state to itself? -/
def acquires : Routine σ α → σ → Bool
  | done _, _ => false
  | act change next, state => (next state).acquires (change state)
  | acquire _, _ => true
  | release next, state | sleep _ next, state => next.acquires state

@[simp] theorem run_pure (result : α) (state : σ) :
    (pure result : Routine σ α).run state = (result, state) := rfl

@[simp] theorem run_perform (f : σ → α × σ) (state : σ) : (perform f).run state = f state := rfl

@[simp] theorem run_pause (ms : Nat) (state : σ) : (pause ms).run state = ((), state) := rfl

/-- One routine after the other runs as the first and then the second. -/
theorem run_bind (routine : Routine σ α) (next : α → Routine σ β) (state : σ) :
    (routine >>= next).run state = (next (routine.run state).1).run (routine.run state).2 := by
  change (routine.bind next).run state = _
  induction routine generalizing state with
  | done => rfl
  | act change _ ih => exact ih state (change state)
  | acquire _ ih | release _ ih | sleep _ _ ih => exact ih state

/-- Alone, a routine does under the lock what it does without. -/
@[simp] theorem run_exclusively (routine : Routine σ α) (state : σ) :
    (exclusively routine).run state = routine.run state :=
  run_bind routine (fun result => release (done result)) state

end Routine
end RegionRouting
