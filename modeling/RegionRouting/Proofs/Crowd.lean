/-
  Region routing — lookups that compete for the lock.

  A `Crowd` is some routines that share a state and its one lock.  A schedule
  says whose step comes next, in any order at all; whoever waits for a lock that
  is not free stays where it is.

  * `Crowd.step` is the next step of one member, `Crowd.after` those of a
    schedule;
  * `Lookup.regionByKey_apply` takes a lookup of a key apart: it is counted,
    takes the lock, settles the key, gives the lock back, and announces what it
    has evicted;
  * `Lookup.inTurn` makes lookups one after the other, and `inTurn_adjust` says
    that these settle their keys so, and count and announce besides;
  * a `Caller` is a lookup with what has become of it (`Standing`), and
    `Caller.routine` what it has still to do.
-/
import RegionRouting.Proofs.Heedless

namespace RegionRouting

/-! ## Crowds -/

/-- Some routines that share a state and its one lock: where each of them
    stands, who owns the lock, and who has taken it so far, in order. -/
structure Crowd (σ α : Type) where
  state : σ
  members : List (Routine σ α)
  owner : Option Nat := none
  turns : List Nat := []

namespace Crowd

variable {σ α : Type}

/-- A member makes its next step, if it may. -/
def stepFrom (crowd : Crowd σ α) (i : Nat) : Routine σ α → Crowd σ α
  | .done _ => crowd
  | .act change next =>
    { crowd with
      state := change crowd.state
      members := crowd.members.set i (next crowd.state) }
  | .acquire next =>
    if crowd.owner = none then
      { crowd with
        members := crowd.members.set i next
        owner := some i
        turns := crowd.turns ++ [i] }
    else
      crowd
  | .release next => { crowd with members := crowd.members.set i next, owner := none }
  | .sleep _ next => { crowd with members := crowd.members.set i next }

def step (crowd : Crowd σ α) (i : Nat) : Crowd σ α :=
  (crowd.members[i]?).elim crowd (crowd.stepFrom i)

/-- The crowd after the steps of a schedule. -/
def after (crowd : Crowd σ α) (schedule : List Nat) : Crowd σ α :=
  schedule.foldl step crowd

theorem after_append (crowd : Crowd σ α) (schedule later : List Nat) :
    crowd.after (schedule ++ later) = (crowd.after schedule).after later :=
  List.foldl_append

end Crowd

namespace Routine

variable {σ α β : Type}

/-- The next thing that the routine does to the lock, whatever happens, is to
    give it back. -/
def Holds : Routine σ α → Prop
  | .done _ | .acquire _ => False
  | .act _ next => ∀ old, (next old).Holds
  | .release _ => True
  | .sleep _ next => next.Holds

theorem bind_assoc {γ : Type} (routine : Routine σ α) (next : α → Routine σ β)
    (last : β → Routine σ γ) :
    (routine.bind next).bind last = routine.bind fun a => (next a).bind last :=
  LawfulMonad.bind_assoc routine next last

end Routine

theorem Routine.Heedless.holds_bind {ω α β : Type} {routine : Routine (Client ω) α}
    (h : routine.Heedless) {next : α → Routine (Client ω) β} (h' : ∀ a, (next a).Holds) :
    (routine.bind next).Holds := by
  induction routine with
  | done result => exact h' result
  | act change rest ih => exact fun client => ih client (h.2 client)
  | acquire | release => exact h.elim
  | sleep _ _ ih => exact ih h

/-! ## The parts of a lookup -/

namespace Lookup

/-- What a lookup of a region answers, and what is left of its budget. -/
abbrev Answer := Except RouteError Region × Backoffer

/-- What it has settled under the lock: the region, and those that it has
    evicted. -/
abbrev Settled := Except RouteError (Region × List Region) × Backoffer

def Settled.answer (settled : Settled) : Answer :=
  (settled.1.map (·.1), settled.2)

def Settled.evicted (settled : Settled) : List Region :=
  match settled.1 with
  | .ok (_, evicted) => evicted
  | .error _ => []

variable {ω : Type}

/-- What is left to do once the lock was given back. -/
def farewell : Settled → Routine (Client ω) Answer
  | (.ok (region, evicted), budget) =>
    .act (·.announceEvicted evicted) fun _ => .done (.ok region, budget)
  | (.error error, budget) => .done (.error error, budget)

/-- Gives the lock back, and does what is left to do. -/
def leave (settled : Settled) : Routine (Client ω) Answer :=
  .release (farewell settled)

theorem not_holds_farewell [Nonempty (Client ω)] (settled : Settled) :
    ¬(farewell (ω := ω) settled).Holds := by
  obtain ⟨_ | ⟨region, evicted⟩, budget⟩ := settled
  · exact id
  · exact fun h => h (Classical.choice inferInstance)

variable [Authority ω]

/-- A lookup is counted, and takes the lock while it settles the key. -/
theorem regionByKey_apply (key : Key) (budget : Backoffer) : regionByKey (ω := ω) key budget =
    .act (·.record .lookup) fun _ => .acquire ((settleKey key budget).bind leave) := by
  have last : resume announced = farewell (ω := ω) := by
    funext settled
    obtain ⟨_ | _, _⟩ := settled <;> rfl
  have locked : (exclusively (settleKey (ω := ω) key) >>= announced) budget =
      .acquire ((settleKey key budget).bind leave) := by
    rw [bind_apply, last]
    exact congrArg Routine.acquire (Routine.bind_assoc _ _ _)
  exact congrArg (Routine.act (·.record .lookup)) (funext fun _ => locked)

/-- Some lookups of keys, each with a budget of its own, that find a client;
    none of them has begun. -/
def gathered (client : Client ω) (calls : List (Key × Backoffer)) : Crowd (Client ω) Answer where
  state := client
  members := calls.map fun call => regionByKey call.1 call.2

/-! ## One lookup after the other -/

section
variable {α : Type} (lookup : Key → Lookup ω α)

/-- Makes lookups one after the other, each with a budget of its own: what they
    come to, and the client that they leave. -/
def inTurn : List (Key × Backoffer) → Client ω → List (Except RouteError α × Backoffer) × Client ω
  | [], client => ([], client)
  | call :: calls, client =>
    let first := (lookup call.1).outcome call.2 client
    let rest := inTurn calls first.2
    (first.1 :: rest.1, rest.2)

omit [Authority ω] in
theorem inTurn_concat (calls : List (Key × Backoffer)) (call : Key × Backoffer)
    (client : Client ω) : inTurn lookup (calls ++ [call]) client =
      let before := inTurn lookup calls client
      let last := (lookup call.1).outcome call.2 before.2
      (before.1 ++ [last.1], last.2) := by
  induction calls generalizing client with
  | nil => rfl
  | cons first calls ih => simp only [List.cons_append, inTurn, ih]

end

/-- Lookups of keys that cached regions own are hits. -/
theorem inTurn_hits {calls : List (Key × Backoffer)} {client : Client ω}
    (h : ∀ call ∈ calls, (client.cache.regions.find? call.1).isSome) :
    (∀ answer ∈ (inTurn regionByKey calls client).1, ∃ call ∈ calls, ∃ region,
      client.cache.regions.find? call.1 = some region ∧ answer = (.ok region, call.2)) ∧
    ∃ metrics, (inTurn regionByKey calls client).2 = { client with metrics } := by
  induction calls generalizing client with
  | nil => exact ⟨nofun, client.metrics, rfl⟩
  | cons call calls ih =>
    obtain ⟨first, others⟩ := List.forall_mem_cons.1 h
    obtain ⟨region, owner⟩ := Option.isSome_iff_exists.1 first
    let counted := (client.record .lookup).record .hit
    have later : ∀ call ∈ calls, (counted.cache.regions.find? call.1).isSome := others
    obtain ⟨answers, metrics, rest⟩ := ih later
    rw [inTurn, outcome_regionByKey_hit call.2 owner]
    refine ⟨fun answer among => ?_, metrics, rest⟩
    rcases List.mem_cons.1 among with rfl | among
    · exact ⟨call, List.mem_cons_self, region, owner, rfl⟩
    · obtain ⟨other, member, found⟩ := answers answer among
      exact ⟨other, List.mem_cons_of_mem _ member, found⟩

omit [Authority ω] in
theorem announce_eq (settled : Settled) (client : Client ω) :
    announce (settled, client) = (settled.answer, client.adjust 0 settled.evicted) := by
  obtain ⟨_ | ⟨region, evicted⟩, budget⟩ := settled
  · exact congrArg (Prod.mk _) client.adjust_nil.symm
  · exact congrArg (Prod.mk _) client.announceEvicted_eq_adjust

/-- Lookups that are made one after the other settle their keys so; they count
    and announce besides. -/
theorem inTurn_adjust (calls : List (Key × Backoffer)) (client : Client ω) (lookups : Nat)
    (evicted : List Region) : inTurn regionByKey calls (client.adjust lookups evicted) =
      let alone := inTurn settleKey calls client
      (alone.1.map Settled.answer,
        alone.2.adjust (lookups + calls.length) (evicted ++ alone.1.flatMap Settled.evicted)) := by
  induction calls generalizing client lookups evicted with
  | nil => simp [inTurn]
  | cons call calls ih =>
    have first : (regionByKey call.1).outcome call.2 (client.adjust lookups evicted) =
        let settled := (settleKey call.1).outcome call.2 client
        (Settled.answer settled.1,
          settled.2.adjust (lookups + 1) (evicted ++ Settled.evicted settled.1)) := by
      rw [outcome_regionByKey, Client.record_lookup, Client.adjust_adjust, List.append_nil, outcome,
        (heedless_settleKey call.1 call.2).run_adjust, announce_eq, Client.adjust_adjust]
      rfl
    simp only [inTurn, first, ih, List.map_cons, List.flatMap_cons, List.length_cons,
      List.append_assoc, Nat.add_assoc, Nat.add_comm 1]

/-! ## Callers -/

/-- What has become of a lookup: it has not begun; it was counted, and waits for
    the lock; it owns the lock, and has still something to do under it; it has
    given the lock back; or it has announced what it has evicted too. -/
inductive Standing (ω : Type) where
  | fresh
  | queued
  | inside (rest : Routine (Client ω) Settled)
  | left (settled : Settled)
  | gone (settled : Settled)

/-- A lookup of a key with a budget, and what has become of it. -/
structure Caller (ω : Type) where
  key : Key
  budget : Backoffer
  standing : Standing ω := .fresh

namespace Caller

def call (caller : Caller ω) : Key × Backoffer :=
  (caller.key, caller.budget)

/-- What a caller has still to do. -/
def routine (caller : Caller ω) : Routine (Client ω) Answer :=
  match caller.standing with
  | .fresh => regionByKey caller.key caller.budget
  | .queued => .acquire ((settleKey caller.key caller.budget).bind leave)
  | .inside rest => rest.bind leave
  | .left settled => farewell settled
  | .gone settled => .done settled.answer

/-- Was the lookup counted? -/
def counted (caller : Caller ω) : Bool :=
  match caller.standing with
  | .fresh => false
  | _ => true

/-- What the lookup has settled, once it has given the lock back. -/
def settled? (caller : Caller ω) : Option Settled :=
  match caller.standing with
  | .left settled | .gone settled => some settled
  | _ => none

/-- The evictions that were announced. -/
def announced (caller : Caller ω) : List Region :=
  match caller.standing with
  | .gone settled => settled.evicted
  | _ => []

end Caller
end Lookup
end RegionRouting
