/-
  Region routing — crowds of lookups come to an end, in the order of the lock.

  * `Account.exists_answered`: there is no deadlock; whatever was done so far, the
    owner of the lock can finish, and then one member after the other;
  * `InLockOrder`: lookups that are done have come to what they come to one after
    the other, in the order in which they have taken the lock; so it always is
    (`Account.inLockOrder`).
-/
import Mathlib.Data.Set.List
import RegionRouting.Proofs.Serial

namespace RegionRouting

/-! ## No deadlock -/

/-- All members are done, with these answers. -/
def Crowd.Answered {σ α : Type} (crowd : Crowd σ α) (answers : List α) : Prop :=
  crowd.members = answers.map .done

/-- A member can go on until it is done, with the lock given back; the others
    stay where they are meanwhile. -/
def Crowd.CanFinish {σ α : Type} (crowd : Crowd σ α) (i : Nat) : Prop :=
  ∃ schedule answer, (crowd.after schedule).owner = none ∧
    (crowd.after schedule).members = crowd.members.set i (.done answer)

namespace Lookup

variable {ω : Type} [Authority ω]

namespace Account

variable {base : Client ω} {calls : List (Key × Backoffer)} {crowd : Crowd (Client ω) Answer}
  {i : Nat} {answers : List Answer}

/-- The owner of the lock has it to give back. -/
theorem holds_of_owner (account : Account base calls crowd) {routine : Routine (Client ω) Answer}
    (owner : crowd.owner = some i) (present : crowd.members[i]? = some routine) :
    routine.Holds := by
  obtain ⟨⟨key, budget, standing⟩, rest, found, inside⟩ := account.owned owner
  cases inside
  cases present.symm.trans (account.getElem?_members found)
  exact (account.inside found rfl).2.1.holds_bind fun _ => trivial

/-- After its next step a member may still be able to finish. -/
theorem canFinish_of_step (account : Account base calls crowd)
    {routine rest : Routine (Client ω) Answer} (present : crowd.members[i]? = some routine)
    (members : (crowd.stepFrom i routine).members = crowd.members.set i rest)
    (later : Account base calls (crowd.stepFrom i routine) →
      (crowd.stepFrom i routine).members[i]? = some rest → (crowd.stepFrom i routine).CanFinish i) :
    crowd.CanFinish i := by
  obtain ⟨lt, -⟩ := List.getElem?_eq_some_iff.1 present
  have step : crowd.step i = crowd.stepFrom i routine := by
    rw [Crowd.step, present, Option.elim_some]
  obtain ⟨account'⟩ := account.step i
  obtain ⟨schedule, answer, free, done⟩ :=
    later (step ▸ account') (by rw [members, List.getElem?_set_self lt])
  rw [← step] at free done members
  exact ⟨i :: schedule, answer, free, done.trans (by rw [members, List.set_set])⟩

/-- A member that need not wait for the lock can finish. -/
theorem canFinish (account : Account base calls crowd) {routine : Routine (Client ω) Answer}
    (present : crowd.members[i]? = some routine)
    (may : crowd.owner = none ∨ crowd.owner = some i) : crowd.CanFinish i := by
  -- on what the member has still to do; it would wait for a lock of its own if it
  -- were the owner, but then its next act on the lock is to give it back
  induction routine generalizing crowd with
  | done answer =>
    obtain ⟨lt, here⟩ := List.getElem?_eq_some_iff.1 present
    refine ⟨[], answer, may.resolve_right fun owner => ?_, ?_⟩
    · exact account.holds_of_owner owner present
    · rw [← here, List.set_getElem_self]
      rfl
  | act change next ih =>
    exact account.canFinish_of_step present rfl fun account' present' =>
      ih crowd.state account' present' may
  | acquire next ih =>
    have free : crowd.owner = none :=
      may.resolve_right fun owner => account.holds_of_owner owner present
    refine account.canFinish_of_step present ?_ fun account' present' => ih account' present' ?_
    · rw [Crowd.stepFrom, if_pos free]
    · rw [Crowd.stepFrom, if_pos free]
      exact .inr rfl
  | release next ih =>
    exact account.canFinish_of_step present rfl fun account' present' =>
      ih account' present' (.inl rfl)
  | sleep ms next ih =>
    exact account.canFinish_of_step present rfl fun account' present' => ih account' present' may

/-- Once the lock is free, one member after the other can finish. -/
theorem exists_done_upTo (account : Account base calls crowd) (free : crowd.owner = none) {n : Nat}
    (le : n ≤ crowd.members.length) : ∃ schedule, (crowd.after schedule).owner = none ∧
      (crowd.after schedule).members.length = crowd.members.length ∧
      ∀ i < n, ∃ answer, (crowd.after schedule).members[i]? = some (.done answer) := by
  induction n with
  | zero => exact ⟨[], free, rfl, nofun⟩
  | succ n ih =>
    obtain ⟨schedule, free, length, done⟩ := ih (Nat.le_of_succ_le le)
    obtain ⟨account'⟩ := account.after schedule
    have lt : n < (crowd.after schedule).members.length := length ▸ le
    obtain ⟨more, answer, free', members⟩ :=
      account'.canFinish (List.getElem?_eq_getElem lt) (.inl free)
    refine ⟨schedule ++ more, ?_⟩
    rw [Crowd.after_append, members, List.length_set]
    refine ⟨free', length, fun i below => ?_⟩
    rcases Nat.lt_succ_iff_lt_or_eq.1 below with earlier | rfl
    · rw [List.getElem?_set_ne (Nat.ne_of_gt earlier)]
      exact done i earlier
    · exact ⟨answer, List.getElem?_set_self lt⟩

/-- Whatever was done so far, all can finish, first whoever owns the lock. -/
theorem exists_answered (account : Account base calls crowd) :
    ∃ schedule answers, (crowd.after schedule).Answered answers := by
  have freed : ∃ schedule, (crowd.after schedule).owner = none := by
    cases owner : crowd.owner with
    | none => exact ⟨[], owner⟩
    | some i =>
      obtain ⟨caller, -, found, -⟩ := account.owned owner
      obtain ⟨schedule, -, free, -⟩ :=
        account.canFinish (account.getElem?_members found) (.inr owner)
      exact ⟨schedule, free⟩
  obtain ⟨schedule, free⟩ := freed
  obtain ⟨account'⟩ := account.after schedule
  obtain ⟨more, -, length, done⟩ := account'.exists_done_upTo free (Nat.le_refl _)
  rw [← length, ← Crowd.after_append] at done
  have all : (crowd.after (schedule ++ more)).members ∈ Set.range (List.map Routine.done) := by
    rw [Set.range_list_map]
    intro routine among
    obtain ⟨i, present⟩ := List.mem_iff_getElem?.1 among
    obtain ⟨lt, -⟩ := List.getElem?_eq_some_iff.1 present
    obtain ⟨answer, same⟩ := done i lt
    exact ⟨answer, Option.some.inj (same.symm.trans present)⟩
  obtain ⟨answers, members⟩ := all
  exact ⟨schedule ++ more, answers, members.symm⟩

/-! ## The order of the lock -/

section
variable (account : Account base calls crowd) (done : crowd.Answered answers)
include account done

/-- What the callers have settled, once all are done. -/
theorem exists_settled : ∃ results : List Settled, results.map Settled.answer = answers ∧
    account.callers.map Caller.settled? = results.map some ∧
    account.callers.countP Caller.counted = results.length ∧
    account.callers.flatMap Caller.announced = results.flatMap Settled.evicted := by
  have each : ∀ caller ∈ account.callers, ∀ answer : Answer, caller.routine = .done answer →
      ∃ settled, caller.settled? = some settled ∧ settled.answer = answer ∧
        caller.counted = true ∧ caller.announced = settled.evicted := by
    intro caller among answer gone
    obtain ⟨i, present⟩ := List.mem_iff_getElem?.1 among
    exact account.settled_of_done present gone
  have members : account.callers.map Caller.routine = answers.map .done :=
    account.members.symm.trans done
  clear done
  generalize account.callers = callers at each members
  induction callers generalizing answers with
  | nil =>
    obtain rfl := List.map_eq_nil_iff.1 members.symm
    exact ⟨[], rfl, rfl, rfl, rfl⟩
  | cons caller callers ih =>
    obtain _ | ⟨answer, answers⟩ := answers
    · cases members
    · obtain ⟨gone, others⟩ := List.cons_eq_cons.1 members
      obtain ⟨settled, own, rfl, counted, announced⟩ := each caller List.mem_cons_self answer gone
      obtain ⟨results, rfl, settled', counted', announced'⟩ :=
        ih (fun caller among => each caller (List.mem_cons_of_mem _ among)) others
      refine ⟨settled :: results, rfl, ?_, ?_, ?_⟩
      · rw [List.map_cons, own, settled', List.map_cons]
      · rw [List.countP_cons_of_pos counted, counted', List.length_cons]
      · rw [List.flatMap_cons, announced, announced', List.flatMap_cons]

/-- Once all are done the lock is free. -/
theorem free_of_answered : crowd.owner = none := by
  cases owner : crowd.owner with
  | none => rfl
  | some i =>
    obtain ⟨caller, -, found, -⟩ := account.owned owner
    have present := account.getElem?_members found
    have holds := account.holds_of_owner owner present
    rw [done, List.getElem?_map] at present
    obtain ⟨answer, -, gone⟩ := Option.map_eq_some_iff.1 present
    rw [← gone] at holds
    exact holds.elim

end
end Account

/-- The members of a list in some order of their places. -/
def inOrder {α : Type} (order : List Nat) (members : List α) : List α :=
  order.filterMap (members[·]?)

theorem inOrder_perm {α : Type} {order : List Nat} {members : List α}
    (h : order.Perm (List.range members.length)) : (inOrder order members).Perm members := by
  have all : (List.range members.length).filterMap (members[·]?) = members := by
    clear h
    induction members with
    | nil => rfl
    | cons first members ih =>
      rw [List.length_cons, List.range_succ_eq_map, List.filterMap_cons, List.filterMap_map]
      exact congrArg (first :: ·) ih
  exact (h.filterMap _).trans (.of_eq all)

/-- Lookups that are done with these answers have come to what they come to one
    after the other, in the order in which they have taken the lock: the answers
    are the same, and so is what has become of the client, but that evictions
    may have been announced in another order. -/
structure InLockOrder (client : Client ω) (calls : List (Key × Backoffer))
    (crowd : Crowd (Client ω) Answer) (answers : List Answer) : Prop where
  length : answers.length = calls.length
  turns : crowd.turns.Perm (List.range calls.length)
  answers : inOrder crowd.turns answers =
    (inTurn regionByKey (inOrder crowd.turns calls) client).1
  state : crowd.state = { (inTurn regionByKey (inOrder crowd.turns calls) client).2 with
    notices := crowd.state.notices }
  notices : crowd.state.notices.Perm
    (inTurn regionByKey (inOrder crowd.turns calls) client).2.notices

/-- **The order of the lock.** Once all lookups are done, they have come to what
    they come to one after the other. -/
theorem Account.inLockOrder {base : Client ω} {calls : List (Key × Backoffer)}
    {crowd : Crowd (Client ω) Answer} {answers : List Answer} (account : Account base calls crowd)
    (done : crowd.Answered answers) : InLockOrder base calls crowd answers := by
  obtain ⟨results, rfl, settled, counted, announced⟩ := account.exists_settled done
  have free := account.free_of_answered done
  have turns : crowd.turns = account.log := by
    rw [account.turns, free]
    exact List.append_nil _
  have length : results.length = calls.length := by
    have callers := congrArg List.length settled
    rw [List.length_map, List.length_map] at callers
    rw [← account.made, List.length_map, callers]
  have settledAt (i : Nat) : account.callers[i]?.bind Caller.settled? = results[i]? := by
    have read := congrArg (·[i]?) settled
    rw [List.getElem?_map, List.getElem?_map] at read
    calc account.callers[i]?.bind Caller.settled?
      _ = (account.callers[i]?.map Caller.settled?).join := by cases account.callers[i]? <;> rfl
      _ = (results[i]?.map some).join := by rw [read]
      _ = results[i]? := by cases results[i]? <;> rfl
  have order : crowd.turns.Perm (List.range calls.length) := by
    refine (List.perm_ext_iff_of_nodup account.distinct List.nodup_range).2 fun i => ?_
    rw [turns, account.logged, settledAt, List.mem_range, ← length]
    simp
  have alone : inTurn settleKey (inOrder crowd.turns calls) base =
      (inOrder crowd.turns results, account.settled) := by
    simp only [turns, inOrder, account.replayed, settledAt]
  have whole := inTurn_adjust (inOrder crowd.turns calls) base 0 []
  simp only [Client.adjust_nil, alone, List.nil_append, Nat.zero_add,
    (inOrder_perm order).length_eq] at whole
  -- evictions were announced as the members came to it, not in the order of the lock
  have evicted : account.announced.Perm ((inOrder crowd.turns results).flatMap Settled.evicted) :=
    (account.told.trans (.of_eq announced)).trans
      ((inOrder_perm (length ▸ order)).symm.flatMap_right _)
  have state : crowd.state = account.settled.adjust calls.length account.announced := by
    rw [account.state, account.free free, counted, length]
  refine ⟨by rw [List.length_map, length], order, ?_, ?_, ?_⟩
  · rw [whole, inOrder, inOrder, List.map_filterMap]
    simp only [List.getElem?_map]
  · rw [whole, state]
    exact Client.adjust_perm _ evicted
  · rw [whole, state]
    exact Client.notices_adjust_perm _ evicted

end Lookup
end RegionRouting
