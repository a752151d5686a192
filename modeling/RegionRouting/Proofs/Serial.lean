/-
  Region routing — lookups take effect in the order of the lock.

  Lookups of keys that compete for the lock come to what they would come to one
  after the other, in the order in which they have taken it.

  * `Account` is what the state of a crowd of lookups comes down to: those that
    have given the lock back have settled their keys one after the other, and
    the owner goes on from there;
  * `Account.step`: each step of each member keeps this up, and so does every
    schedule (`Account.after`);
  * `Account.owner_of_holds` and `Account.settled_of_done` are what an account
    says of a member by what it has still to do.
-/
import RegionRouting.Proofs.Crowd
import RegionRouting.Proofs.Member

namespace RegionRouting.Lookup

variable {ω : Type} [Authority ω]

/-- What a crowd of lookups has done since it found a client: the lookups in the
    log have settled their keys one after the other; the owner of the lock has
    begun to do so; lookups were counted, and evictions announced, at any time. -/
structure Account (base : Client ω) (calls : List (Key × Backoffer))
    (crowd : Crowd (Client ω) Answer) where
  callers : List (Caller ω)
  /-- those that have given the lock back, in order -/
  log : List Nat
  /-- the client as they have left it, but for what was counted and announced -/
  settled : Client ω
  /-- the same with what the owner of the lock has done so far -/
  current : Client ω
  announced : List Region
  made : callers.map Caller.call = calls
  members : crowd.members = callers.map Caller.routine
  state : crowd.state = current.adjust (callers.countP Caller.counted) announced
  told : announced.Perm (callers.flatMap Caller.announced)
  replayed : inTurn settleKey (log.filterMap (calls[·]?)) base =
    (log.filterMap fun i => callers[i]?.bind Caller.settled?, settled)
  turns : crowd.turns = log ++ crowd.owner.toList
  distinct : crowd.turns.Nodup
  logged {i : Nat} : i ∈ log ↔ (callers[i]?.bind Caller.settled?).isSome
  free : crowd.owner = none → current = settled
  owned {i : Nat} : crowd.owner = some i →
    ∃ caller rest, callers[i]? = some caller ∧ caller.standing = .inside rest
  inside {i : Nat} {caller : Caller ω} {rest : Routine (Client ω) Settled} :
    callers[i]? = some caller → caller.standing = .inside rest →
      crowd.owner = some i ∧ rest.Heedless ∧
        rest.run current = (settleKey caller.key).outcome caller.budget settled

namespace Account

variable {base : Client ω} {calls : List (Key × Backoffer)} {crowd crowd' : Crowd (Client ω) Answer}
  {i : Nat} {caller caller' : Caller ω} {rest : Routine (Client ω) Settled}

/-- At the start nobody has begun. -/
def start (base : Client ω) (calls : List (Key × Backoffer)) :
    Account base calls (gathered base calls) where
  callers := calls.map fun call => { key := call.1, budget := call.2 }
  log := []
  settled := base
  current := base
  announced := []
  made := by simp [Caller.call, Function.comp_def]
  members := by simp [gathered, Caller.routine, Function.comp_def]
  state := by
    have uncounted : (calls.map fun call =>
        ({ key := call.1, budget := call.2 } : Caller ω)).countP Caller.counted = 0 := by
      simp [List.countP_eq_zero, Caller.counted]
    rw [uncounted, Client.adjust_nil, gathered]
  told := by
    have nothing : (calls.map fun call =>
        ({ key := call.1, budget := call.2 } : Caller ω)).flatMap Caller.announced = [] := by
      refine List.flatMap_eq_nil_iff.2 fun caller among => ?_
      obtain ⟨call, -, rfl⟩ := List.mem_map.1 among
      rfl
    rw [nothing]
  replayed := rfl
  turns := rfl
  distinct := List.nodup_nil
  logged {i} := by cases h : calls[i]? <;> simp [h, Caller.settled?]
  free _ := rfl
  owned := nofun
  inside {i caller rest} present inside := by
    rw [List.getElem?_map] at present
    obtain ⟨call, -, rfl⟩ := Option.map_eq_some_iff.1 present
    cases inside

variable (account : Account base calls crowd)

theorem getElem?_members (present : account.callers[i]? = some caller) :
    crowd.members[i]? = some caller.routine := by
  rw [account.members, List.getElem?_map, present, Option.map_some]

/-- A caller that is not inside is not the owner. -/
theorem not_owner (present : account.callers[i]? = some caller)
    (outside : ∀ rest, caller.standing ≠ .inside rest) : crowd.owner ≠ some i := by
  intro owner
  obtain ⟨other, rest, found, inside⟩ := account.owned owner
  cases present.symm.trans found
  exact outside rest inside

/-- A caller goes on, but does not give the lock back: it is counted, or does
    something under the lock, or announces what it has evicted. -/
def goOn (caller' : Caller ω) (present : account.callers[i]? = some caller)
    (same : caller'.call = caller.call)
    (settled : caller'.settled? = caller.settled?) (current : Client ω) (announced : List Region)
    (told : caller'.announced = announced ++ caller.announced)
    (members : crowd'.members = crowd.members.set i caller'.routine)
    (state : crowd'.state = current.adjust ((account.callers.set i caller').countP Caller.counted)
      (account.announced ++ announced))
    (turns : crowd'.turns = account.log ++ crowd'.owner.toList) (distinct : crowd'.turns.Nodup)
    (free : crowd'.owner = none → current = account.settled)
    (owned : ∀ {j}, crowd'.owner = some j →
      ∃ caller rest, (account.callers.set i caller')[j]? = some caller ∧
        caller.standing = .inside rest)
    (inside : ∀ {j caller rest}, (account.callers.set i caller')[j]? = some caller →
      caller.standing = .inside rest → crowd'.owner = some j ∧ rest.Heedless ∧
        rest.run current = (settleKey caller.key).outcome caller.budget account.settled) :
    Account base calls crowd' where
  callers := account.callers.set i caller'
  log := account.log
  settled := account.settled
  current
  announced := account.announced ++ announced
  made := (map_set_of_eq present Caller.call same).trans account.made
  members := by rw [members, account.members, List.map_set]
  state
  told := by
    have before := flatMap_perm_of_getElem? Caller.announced present
    have after := flatMap_set_perm Caller.announced present caller'
    rw [told, List.append_assoc] at after
    have moved := (account.told.trans before).append_right announced
    exact moved.trans (List.perm_append_comm.trans after.symm)
  replayed := by
    have kept := apply_getElem?_set present (fun caller => caller.bind Caller.settled?)
      (by simpa using settled)
    simp only [kept]
    exact account.replayed
  turns
  distinct
  logged {j} := by
    rw [apply_getElem?_set present (fun caller => caller.bind Caller.settled?)
      (by simpa using settled)]
    exact account.logged
  free
  owned
  inside

/-- Callers other than the one that goes on stay where they are. -/
theorem getElem?_going (present : account.callers[i]? = some caller) (j : Nat) :
    (account.callers.set i caller')[j]? =
      if i = j then some caller' else account.callers[j]? := by
  obtain ⟨lt, -⟩ := List.getElem?_eq_some_iff.1 present
  split
  · next here => rw [← here, List.getElem?_set_self lt]
  · next other => rw [List.getElem?_set_ne other]

/-- A caller that is outside the lock goes on outside. -/
theorem goOutside (caller' : Caller ω) (present : account.callers[i]? = some caller)
    (outside : ∀ rest, caller.standing ≠ .inside rest)
    (outside' : ∀ rest, caller'.standing ≠ .inside rest) (same : caller'.call = caller.call)
    (settled : caller'.settled? = caller.settled?) (announced : List Region)
    (told : caller'.announced = announced ++ caller.announced)
    (state : (crowd.state.adjust (if caller.counted then 0 else 1) announced) = crowd'.state)
    (counted : caller'.counted = true)
    (members : crowd'.members = crowd.members.set i caller'.routine)
    (owner : crowd'.owner = crowd.owner) (turns : crowd'.turns = crowd.turns) :
    Nonempty (Account base calls crowd') := by
  refine ⟨account.goOn caller' present same settled account.current announced told members
    ?_ ?_ ?_ ?_ ?_ ?_⟩
  · rw [← state, account.state, Client.adjust_adjust, countP_set _ present,
      countP_of_getElem? _ present, counted]
    cases caller.counted <;> rfl
  · rw [turns, owner, account.turns]
  · exact turns ▸ account.distinct
  · exact fun free => account.free (owner ▸ free)
  · intro j owned
    rw [owner] at owned
    rw [account.getElem?_going present, if_neg]
    · exact account.owned owned
    · rintro rfl
      exact account.not_owner present outside owned
  · intro j other rest found inside
    rw [account.getElem?_going present] at found
    split at found
    · cases found
      exact absurd inside (outside' rest)
    · rw [owner]
      exact account.inside found inside

/-- A caller that waits takes the lock, when it is free. -/
theorem take (present : account.callers[i]? = some caller) (queued : caller.standing = .queued)
    (free : crowd.owner = none) : Nonempty (Account base calls { crowd with
      members := crowd.members.set i ((settleKey caller.key caller.budget).bind leave)
      owner := some i
      turns := crowd.turns ++ [i] }) := by
  have current := account.free free
  have turns : crowd.turns = account.log := by
    rw [account.turns, free]
    exact List.append_nil _
  have unlogged : i ∉ account.log := by
    intro logged
    have settled := account.logged.1 logged
    rw [present] at settled
    simp [Caller.settled?, queued] at settled
  refine ⟨account.goOn { caller with standing := .inside (settleKey caller.key caller.budget) }
    present rfl ?_ account.current [] ?_ rfl ?_ ?_ ?_ nofun ?_ ?_⟩
  · simp [Caller.settled?, queued]
  · simp [Caller.announced, queued]
  · rw [List.append_nil, account.state, countP_set _ present, countP_of_getElem? _ present]
    simp [Caller.counted, queued]
  · rw [turns]
    rfl
  · have before := account.distinct
    rw [turns] at before ⊢
    exact List.nodup_append'.2 ⟨before, List.nodup_singleton i, by simpa using unlogged⟩
  · rintro j ⟨⟩
    rw [account.getElem?_going present, if_pos rfl]
    exact ⟨_, _, rfl, rfl⟩
  · intro j other rest found inside
    rw [account.getElem?_going present] at found
    split at found
    · next here =>
      cases found
      cases inside
      exact ⟨congrArg some here, heedless_settleKey _ _, by rw [current]; rfl⟩
    · have owner := (account.inside found inside).1
      rw [free] at owner
      cases owner

/-- The owner of the lock goes on under it. -/
theorem goInside (present : account.callers[i]? = some caller)
    (standing : caller.standing = .inside rest) (rest' : Routine (Client ω) Settled)
    (heedless : rest'.Heedless) {current : Client ω}
    (run : rest'.run current = rest.run account.current)
    (state : current.adjust (account.callers.countP Caller.counted) account.announced =
      crowd'.state)
    (members : crowd'.members = crowd.members.set i (rest'.bind leave))
    (owner : crowd'.owner = crowd.owner) (turns : crowd'.turns = crowd.turns) :
    Nonempty (Account base calls crowd') := by
  obtain ⟨owned, -, replay⟩ := account.inside present standing
  refine ⟨account.goOn { caller with standing := .inside rest' } present rfl ?_ current [] ?_
    members ?_ ?_ ?_ ?_ ?_ ?_⟩
  · simp [Caller.settled?, standing]
  · simp [Caller.announced, standing]
  · rw [List.append_nil, ← state, countP_set _ present, countP_of_getElem? _ present]
    simp [Caller.counted, standing]
  · rw [turns, owner, account.turns]
  · exact turns ▸ account.distinct
  · intro free
    rw [owner, owned] at free
    cases free
  · intro j owner'
    rw [owner, owned] at owner'
    cases owner'
    rw [account.getElem?_going present, if_pos rfl]
    exact ⟨_, _, rfl, rfl⟩
  · intro j other rest found inside
    rw [account.getElem?_going present] at found
    split at found
    · next here =>
      cases found
      cases inside
      exact ⟨by rw [owner, owned, here], heedless, run.trans replay⟩
    · next other =>
      have owner' := (account.inside found inside).1
      rw [owned] at owner'
      exact absurd (Option.some.inj owner') other

/-- The owner of the lock gives it back. -/
theorem giveBack (present : account.callers[i]? = some caller) {settled : Settled}
    (standing : caller.standing = .inside (.done settled)) :
    Nonempty (Account base calls { crowd with
      members := crowd.members.set i (farewell settled)
      owner := none }) := by
  obtain ⟨owned, -, replay⟩ := account.inside present standing
  have turns : crowd.turns = account.log ++ [i] := by
    rw [account.turns, owned]
    rfl
  have unlogged : i ∉ account.log := by
    have distinct := account.distinct
    rw [turns] at distinct
    exact fun logged => List.disjoint_of_nodup_append distinct logged (List.mem_singleton_self i)
  have call : calls[i]? = some (caller.key, caller.budget) := by
    rw [← account.made, List.getElem?_map, present]
    rfl
  let caller' : Caller ω := { caller with standing := .left settled }
  have same : caller'.call = caller.call := rfl
  refine ⟨{
    callers := account.callers.set i caller'
    log := account.log ++ [i]
    settled := account.current
    current := account.current
    announced := account.announced
    made := (map_set_of_eq present Caller.call same).trans account.made
    members := ?_
    state := ?_
    told := ?_
    replayed := ?_
    turns := turns.trans (List.append_nil _).symm
    distinct := account.distinct
    logged := ?_
    free := fun _ => rfl
    owned := nofun
    inside := ?_ }⟩
  · rw [List.map_set, ← account.members]
    rfl
  · rw [account.state, countP_set _ present, countP_of_getElem? _ present]
    simp [Caller.counted, standing]
  · have before := flatMap_perm_of_getElem? Caller.announced present
    have after := flatMap_set_perm Caller.announced present caller'
    rw [Caller.announced, standing] at before
    exact account.told.trans (before.trans after.symm)
  · have others : (account.log.filterMap fun j =>
        (account.callers.set i caller')[j]?.bind Caller.settled?) =
          account.log.filterMap fun j => account.callers[j]?.bind Caller.settled? := by
      refine List.filterMap_congr fun j logged => ?_
      rw [account.getElem?_going present, if_neg]
      rintro rfl
      exact unlogged logged
    have called : [i].filterMap (calls[·]?) = [(caller.key, caller.budget)] := by
      simp [call]
    have came : ([i].filterMap fun j => (account.callers.set i caller')[j]?.bind
        Caller.settled?) = [settled] := by
      simp [account.getElem?_going present, caller', Caller.settled?]
    rw [List.filterMap_append, List.filterMap_append, called, came, others, inTurn_concat,
      account.replayed]
    dsimp only
    rw [← replay]
    rfl
  · intro j
    rw [account.getElem?_going present, List.mem_append, account.logged, List.mem_singleton]
    by_cases here : i = j
    · subst here
      simp [caller', Caller.settled?]
    · simp [here, Ne.symm here]
  · intro j other rest found inside
    rw [account.getElem?_going present] at found
    split at found
    · cases found
      cases inside
    · next distinct =>
      have owner := (account.inside found inside).1
      rw [owned] at owner
      exact absurd (Option.some.inj owner) distinct

include account in
/-- **One step.** Whoever makes it, the account is kept up. -/
theorem step (i : Nat) : Nonempty (Account base calls (crowd.step i)) := by
  cases present : account.callers[i]? with
  | none =>
    have absent : crowd.members[i]? = none := by
      rw [account.members, List.getElem?_map, present, Option.map_none]
    rw [Crowd.step, absent]
    exact ⟨account⟩
  | some caller =>
    rw [Crowd.step, account.getElem?_members present, Option.elim_some]
    obtain ⟨key, budget, standing⟩ := caller
    cases standing with
    | fresh =>
      rw [Caller.routine, regionByKey_apply]
      exact account.goOutside ⟨key, budget, .queued⟩ present nofun nofun rfl rfl []
        rfl crowd.state.record_lookup.symm rfl rfl rfl rfl
    | queued =>
      rw [Caller.routine, Crowd.stepFrom]
      split
      · next free => exact account.take present rfl free
      · exact ⟨account⟩
    | inside rest =>
      have heedless := (account.inside present rfl).2.1
      rw [Caller.routine]
      cases rest with
      | done settled => exact account.giveBack present rfl
      | act change next =>
        obtain ⟨commutes, heedless⟩ := heedless
        obtain ⟨changed, followed⟩ := commutes account.current
          (account.callers.countP Caller.counted) account.announced
        rw [← account.state] at changed followed
        refine account.goInside present rfl _ (heedless account.current) rfl changed.symm ?_ rfl rfl
        rw [← followed]
        rfl
      | acquire | release => exact heedless.elim
      | sleep ms next =>
        exact account.goInside present rfl next heedless rfl account.state.symm rfl rfl rfl
    | left settled =>
      rw [Caller.routine]
      obtain ⟨_ | ⟨region, evicted⟩, budget'⟩ := settled
      · exact ⟨account⟩
      · exact account.goOutside ⟨key, budget, .gone (.ok (region, evicted), budget')⟩ present
          nofun nofun rfl rfl evicted (List.append_nil _).symm
          crowd.state.announceEvicted_eq_adjust.symm rfl rfl rfl rfl
    | gone settled => exact ⟨account⟩

/-- The account of a crowd can be kept by every schedule. -/
theorem after (account : Account base calls crowd) (schedule : List Nat) :
    Nonempty (Account base calls (crowd.after schedule)) := by
  induction schedule generalizing crowd with
  | nil => exact ⟨account⟩
  | cons i schedule ih =>
    obtain ⟨next⟩ := account.step i
    exact ih next

/-! ## What an account says -/

include account in
/-- A member that will give the lock back is the owner. -/
theorem owner_of_holds {routine : Routine (Client ω) Answer}
    (present : crowd.members[i]? = some routine) (holds : routine.Holds) :
    crowd.owner = some i := by
  have inhabited : Nonempty (Client ω) := ⟨base⟩
  rw [account.members, List.getElem?_map] at present
  obtain ⟨⟨key, budget, standing⟩, found, rfl⟩ := Option.map_eq_some_iff.1 present
  cases standing with
  | fresh =>
    rw [Caller.routine, regionByKey_apply] at holds
    exact (holds base).elim
  | queued => exact holds.elim
  | inside => exact (account.inside found rfl).1
  | left settled => exact absurd holds (not_holds_farewell settled)
  | gone => exact holds.elim

/-- A member that is done has settled its key, and has announced what it has
    evicted. -/
theorem settled_of_done {answer : Answer} (present : account.callers[i]? = some caller)
    (done : caller.routine = .done answer) : ∃ settled, caller.settled? = some settled ∧
      settled.answer = answer ∧ caller.counted = true ∧ caller.announced = settled.evicted := by
  obtain ⟨key, budget, standing⟩ := caller
  cases standing with
  | fresh =>
    rw [Caller.routine, regionByKey_apply] at done
    cases done
  | queued => cases done
  | inside rest =>
    have heedless := (account.inside present rfl).2.1
    cases rest with
    | acquire | release => exact heedless.elim
    | _ => cases done
  | left settled =>
    obtain ⟨_ | ⟨region, evicted⟩, budget'⟩ := settled
    · cases done
      exact ⟨_, rfl, rfl, rfl, rfl⟩
    · cases done
  | gone settled =>
    cases done
    exact ⟨_, rfl, rfl, rfl, rfl⟩

end Account
end RegionRouting.Lookup
