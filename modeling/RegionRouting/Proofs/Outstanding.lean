/-
  Region routing — region calls that are outstanding.

  A region call is outstanding from when it is placed until its last attempt has
  answered, or the budget is spent (`AwaitsRegion`).

  * `holds_of_awaitsRegion`: whoever waits for the answer to a region call owns
    the lock meanwhile;
  * `Routine.Watchful`: whoever places a region call waits for the answer next;
    so does each lookup of a key (`watchful_regionByKey`), and so it stays under
    every schedule (`Crowd.awaits_of_step`).
-/
import RegionRouting.Proofs.Crowd
import RegionRouting.Proofs.Supply

namespace RegionRouting

variable {ω α : Type} [Authority ω]

/-! ## The wait for an answer -/

namespace Lookup

/-- What is left of a lookup of a key once its region call was heard: to attempt
    it, to cache the answer, and to give the lock back. -/
def hearing (key : Key) (budget : Backoffer) : Routine (Client ω) Answer :=
  ((budget.persist (·.onWorld (Authority.region (.byKey key)))).bind
    (resume cacheAnswer)).bind leave

/-- Is a region call of the lookup outstanding?  It is on its way, or it was
    heard and has not been answered. -/
inductive AwaitsRegion : Routine (Client ω) Answer → Prop
  | placed (ms : Nat) (key : Key) (budget : Backoffer) :
      AwaitsRegion (.sleep ms (hearing key budget))
  | heard (key : Key) (budget : Backoffer) : AwaitsRegion (hearing key budget)

theorem holds_hearing (key : Key) (budget : Backoffer) : (hearing (ω := ω) key budget).Holds := by
  have heedless : ((budget.persist (·.onWorld (Authority.region (.byKey key)))).bind
      (resume (cacheAnswer (ω := ω)))).Heedless := by
    refine (Routine.heedless_persist _ budget).bind ?_
    rintro ⟨_ | answer, budget'⟩
    · trivial
    · exact heedless_cacheAnswer answer budget'
  exact heedless.holds_bind fun _ => trivial

/-- Whoever waits for the answer to a region call has the lock to give back. -/
theorem holds_of_awaitsRegion {routine : Routine (Client ω) Answer} (h : AwaitsRegion routine) :
    routine.Holds := by
  cases h with
  | placed _ key budget | heard key budget => exact holds_hearing key budget

end Lookup

/-! ## The calls that are placed -/

namespace Routine

open Lookup

/-- No region call is placed. -/
def Quiet (routine : Routine (Client (Observed ω)) α) : Prop :=
  ∀ calls, routine.Preserves (·.regionCalls = calls)

/-- Whoever places a region call waits for the answer next. -/
def Watchful : Routine (Client (Observed ω)) Answer → Prop
  | .done _ => True
  | .act change next =>
    (∀ client, (change client).regionCalls = client.regionCalls ∨ AwaitsRegion (next client)) ∧
      ∀ client, (next client).Watchful
  | .acquire next | .release next | .sleep _ next => next.Watchful

theorem Quiet.watchful_bind {routine : Routine (Client (Observed ω)) α} (h : routine.Quiet)
    {next : α → Routine (Client (Observed ω)) Answer} (h' : ∀ a, (next a).Watchful) :
    (routine.bind next).Watchful := by
  induction routine with
  | done result => exact h' result
  | act change rest ih =>
    exact ⟨fun client => .inl ((h client.regionCalls).1 client rfl),
      fun client => ih client fun calls => (h calls).2 client⟩
  | acquire _ ih | release _ ih | sleep _ _ ih => exact ih h

end Routine

namespace Lookup

open Routine

theorem watchful_leave (settled : Settled) : (leave (ω := Observed ω) settled).Watchful := by
  obtain ⟨_ | ⟨region, evicted⟩, budget⟩ := settled
  · trivial
  · refine ⟨fun client => .inl ?_, fun _ => trivial⟩
    dsimp only
    rw [Client.announceEvicted_eq]
    rfl

omit [Authority ω] in
theorem quiet_record (update : Update) (budget : Backoffer) :
    (change (ω := Observed ω) (·.record update) budget).Quiet := by
  intro calls
  have kept : Preserves (·.regionCalls = calls) (change (ω := Observed ω) (·.record update)) :=
    preserves_change fun _ => rfl
  exact kept budget

/-- A lookup may first do something that places no region call. -/
theorem watchful_bind {lookup : Lookup (Observed ω) α}
    {next : α → Lookup (Observed ω) (Region × List Region)} {budget : Backoffer}
    (h : (lookup budget).Quiet)
    (h' : ∀ a budget, ((next a budget).bind leave).Watchful) :
    (((lookup >>= next) budget).bind leave).Watchful := by
  rw [bind_apply, bind_assoc]
  refine h.watchful_bind ?_
  rintro ⟨error | a, budget⟩
  · exact watchful_leave (.error error, budget)
  · exact h' a budget

theorem watchful_hearing (key : Key) (budget : Backoffer) :
    (hearing (ω := Observed ω) key budget).Watchful := by
  have attempts : (budget.persist (σ := Client (Observed ω))
      (·.onWorld (Authority.region (.byKey key)))).Quiet :=
    fun _ => preserves_persist (fun _ before => before) budget
  rw [hearing, bind_assoc]
  refine attempts.watchful_bind ?_
  rintro ⟨error | answer, budget⟩
  · exact watchful_leave (.error error, budget)
  · have quiet : (cacheAnswer (ω := Observed ω) answer budget).Quiet :=
      fun calls => preserves_cacheAnswer (regionCalls_keptByStoreCalls calls) answer budget
    exact quiet.watchful_bind watchful_leave

/-- A lookup that asks for the region of a key waits for the answer then. -/
theorem watchful_askRegion (key : Key) (budget : Backoffer) :
    (((askRegion (.byKey key) >>= cacheAnswer) budget).bind
      (leave (ω := Observed ω))).Watchful := by
  have parts : ((askRegion (.byKey key) >>= cacheAnswer) budget).bind (leave (ω := Observed ω)) =
      .act (fun client => (client.onWorld (Authority.place (.region (.byKey key)))).2) fun client =>
        .sleep (client.onWorld (Authority.place (.region (.byKey key)))).1
          (hearing key budget) := by
    rw [bind_apply]
    rfl
  rw [parts]
  exact ⟨fun _ => .inr (.placed _ key budget), fun _ => watchful_hearing key budget⟩

theorem watchful_settleKey (key : Key) (budget : Backoffer) :
    ((settleKey key budget).bind (leave (ω := Observed ω))).Watchful := by
  refine watchful_bind (fun _ => preserves_read _ budget) fun found budget => ?_
  cases found with
  | some region =>
    exact watchful_bind (quiet_record _ budget) fun _ budget =>
      watchful_leave (.ok (region, []), budget)
  | none =>
    refine watchful_bind (quiet_record _ budget) fun _ budget => ?_
    rw [fetch_eq]
    exact watchful_bind (quiet_record _ budget) fun _ budget =>
      watchful_askRegion key budget

theorem watchful_regionByKey (key : Key) (budget : Backoffer) :
    (regionByKey (ω := Observed ω) key budget).Watchful := by
  rw [regionByKey_apply]
  exact ⟨fun _ => .inl rfl, fun _ => watchful_settleKey key budget⟩

end Lookup

/-! ## Crowds -/

namespace Crowd

open Lookup Routine

variable {crowd : Crowd (Client (Observed ω)) Answer}

/-- A step changes what its member has still to do, and nothing of the others. -/
theorem watchful_step (h : ∀ routine ∈ crowd.members, routine.Watchful) (i : Nat) :
    ∀ routine ∈ (crowd.step i).members, routine.Watchful := by
  unfold step
  cases present : crowd.members[i]? with
  | none => exact h
  | some routine =>
    have watchful := h routine (List.mem_of_getElem? present)
    have going {rest : Routine (Client (Observed ω)) Answer} (h' : rest.Watchful) :
        ∀ routine ∈ crowd.members.set i rest, routine.Watchful := by
      intro other among
      rcases List.mem_or_eq_of_mem_set among with before | rfl
      · exact h other before
      · exact h'
    cases routine with
    | done => exact h
    | act change next => exact going (watchful.2 crowd.state)
    | acquire next =>
      rw [Option.elim_some, stepFrom]
      split
      · exact going watchful
      · exact h
    | release next | sleep _ next => exact going watchful

theorem watchful_after (h : ∀ routine ∈ crowd.members, routine.Watchful) (schedule : List Nat) :
    ∀ routine ∈ (crowd.after schedule).members, routine.Watchful := by
  induction schedule generalizing crowd with
  | nil => exact h
  | cons i schedule ih => exact ih (watchful_step h i)

/-- Whoever makes a step that places a region call waits for the answer then. -/
theorem awaits_of_step (h : ∀ routine ∈ crowd.members, routine.Watchful) {i : Nat}
    (placed : (crowd.step i).state.regionCalls ≠ crowd.state.regionCalls) :
    ∃ routine, (crowd.step i).members[i]? = some routine ∧ AwaitsRegion routine := by
  unfold step at placed ⊢
  cases present : crowd.members[i]? with
  | none =>
    rw [present] at placed
    exact absurd rfl placed
  | some routine =>
    have watchful := h routine (List.mem_of_getElem? present)
    obtain ⟨lt, -⟩ := List.getElem?_eq_some_iff.1 present
    rw [present, Option.elim_some] at placed
    cases routine with
    | act change next =>
      exact ⟨_, List.getElem?_set_self lt, (watchful.1 crowd.state).resolve_left placed⟩
    | acquire next =>
      rw [stepFrom] at placed
      split at placed <;> exact absurd rfl placed
    | done | release | sleep => exact absurd rfl placed

end Crowd
end RegionRouting
