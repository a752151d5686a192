/-
  Region routing — routines among others that keep to the lock.

  While a routine holds the lock, others may do what they like but touch the cache;
  at other times they may touch that too.  A routine keeps to the lock itself if it
  leaves the cache alone unless it holds the lock.

  * `Routine.Abides`: each act of a routine keeps to the lock and stands in a given
    relation, wherever others have brought the client by then; what is known at the
    end is the postcondition, and `abides_bind` hands it on to the next routine;
  * `Lookup.AbidesLocked` is that of a lookup which holds the lock from before its
    start beyond its end, and `Lookup.Abides` that of one which takes it and gives it
    back.
-/
import RegionRouting.Proofs.Heedless

namespace RegionRouting

variable {ω α β : Type} {R R' : Client ω → Client ω → Prop}

/-! ## Routines -/

namespace Routine

/-- Each act of the routine leaves the cache alone unless the routine holds the lock,
    and relates the client that it finds to the one that it leaves.  What it finds is
    the cache `seen`, if it has held the lock since, and anything at all otherwise. -/
def Abides (R : Client ω → Client ω → Prop) (post : α → Bool → Cache → Prop) :
    Routine (Client ω) α → Bool → Cache → Prop
  | .done result, held, seen => post result held seen
  | .act change next, held, seen => ∀ found, (held = true → found.cache = seen) →
      ((held = false → (change found).cache = found.cache) ∧ R found (change found)) ∧
        (next found).Abides R post held (change found).cache
  | .acquire next, _, _ => ∀ seen, next.Abides R post true seen
  | .release next, _, seen => next.Abides R post false seen
  | .sleep _ next, held, seen => next.Abides R post held seen

variable {post post' : α → Bool → Cache → Prop} {routine : Routine (Client ω) α} {held : Bool}
  {seen : Cache}

/-- Under the lock an act finds the cache as it was seen, and may change it. -/
theorem abides_act_locked {change : Client ω → Client ω}
    {next : Client ω → Routine (Client ω) α} :
    (act change next).Abides R post true seen ↔ ∀ found, found.cache = seen →
      R found (change found) ∧ (next found).Abides R post true (change found).cache := by
  simp [Abides]

/-- One routine after the other abides if the second does, with what the first leaves. -/
theorem abides_bind {next : α → Routine (Client ω) β} {post : β → Bool → Cache → Prop} :
    (routine.bind next).Abides R post held seen ↔
      routine.Abides R (fun a => (next a).Abides R post) held seen := by
  induction routine generalizing held seen with
  | done => exact Iff.rfl
  | act change rest ih => exact forall₂_congr fun found _ => and_congr_right fun _ => ih found
  | acquire rest ih => exact forall_congr' fun _ => ih
  | release _ ih | sleep _ _ ih => exact ih

/-- Less may be asked of the acts and of the end. -/
theorem Abides.mono (h : routine.Abides R post held seen)
    (acts : ∀ client client', R client client' → R' client client')
    (ends : ∀ a held seen, post a held seen → post' a held seen) :
    routine.Abides R' post' held seen := by
  induction routine generalizing held seen with
  | done a => exact ends a held seen h
  | act change next ih =>
    intro found same
    obtain ⟨⟨locked, act⟩, rest⟩ := h found same
    exact ⟨⟨locked, acts _ _ act⟩, ih found rest⟩
  | acquire next ih => exact fun seen => ih (h seen)
  | release _ ih | sleep _ _ ih => exact ih h

/-- Does the routine abide among others, taking the lock and giving it back? -/
def Only (R : Client ω → Client ω → Prop) (routine : Routine (Client ω) α) : Prop :=
  ∀ seen, routine.Abides R (fun _ held _ => held = false) false seen

/-- An act under the lock keeps to a relation in which it stands. -/
theorem only_atomically {f : Client ω → α × Client ω} (act : ∀ client, R client (f client).2) :
    Only R (atomically f) :=
  fun _ _ found _ => ⟨⟨nofun, act found⟩, rfl⟩

/-- An act without the lock keeps to a relation in which it stands, if it leaves the cache
    alone. -/
theorem only_perform {f : Client ω → α × Client ω}
    (kept : ∀ client, (f client).2.cache = client.cache) (act : ∀ client, R client (f client).2) :
    Only R (perform f) :=
  fun _ found _ => ⟨⟨fun _ => kept found, act found⟩, rfl⟩

end Routine

/-! ## Lookups that hold the lock -/

namespace Lookup

/-- Does the lookup abide while it holds the lock, whatever its budget, and leave a
    cache as the postcondition says, if it finds something? -/
def AbidesLocked (R : Client ω → Client ω → Prop) (lookup : Lookup ω α) (seen : Cache)
    (post : α → Cache → Prop) : Prop :=
  ∀ budget, (lookup budget).Abides R
    (fun out held left => held = true ∧ ∀ a, out.1 = .ok a → post a left) true seen

variable {lookup : Lookup ω α} {seen : Cache} {post post' : α → Cache → Prop}

theorem AbidesLocked.mono (h : AbidesLocked R lookup seen post)
    (acts : ∀ client client', R client client' → R' client client') :
    AbidesLocked R' lookup seen fun _ _ => True :=
  fun budget => (h budget).mono acts fun _ _ _ left => ⟨left.1, fun _ _ => trivial⟩

theorem AbidesLocked.bind {next : α → Lookup ω β} {post' : β → Cache → Prop}
    (h : AbidesLocked R lookup seen post)
    (h' : ∀ a left, post a left → AbidesLocked R (next a) left post') :
    AbidesLocked R (lookup >>= next) seen post' := by
  intro budget
  rw [bind_apply, Routine.abides_bind]
  refine (h budget).mono (fun _ _ => id) ?_
  rintro ⟨_ | a, budget⟩ _ left ⟨rfl, known⟩
  · exact ⟨rfl, nofun⟩
  · exact h' a left (known a rfl) budget

theorem abidesLocked_pure {a : α} (known : post a seen) :
    AbidesLocked R (pure a : Lookup ω α) seen post :=
  fun _ => ⟨rfl, fun _ same => Except.ok.inj same ▸ known⟩

theorem abidesLocked_throw (error : RouteError) :
    AbidesLocked R (throw error : Lookup ω α) seen post :=
  fun _ => ⟨rfl, nofun⟩

/-- A change finds the cache as it was. -/
theorem abidesLocked_change {f : Client ω → Client ω}
    (act : ∀ found, found.cache = seen → R found (f found)) :
    AbidesLocked R (change f) seen fun _ _ => True :=
  fun _ => Routine.abides_act_locked.2 fun found same =>
    ⟨act found same, rfl, fun _ _ => trivial⟩

/-- Attempts at a call leave the cache as it was. -/
theorem abides_persist {attempt : ω → Attempt α × ω} (budget : Backoffer)
    (act : ∀ found : Client ω, found.cache = seen → R found (found.onWorld attempt).2) :
    (budget.persist (σ := Client ω) (·.onWorld attempt)).Abides R
      (fun _ held left => held = true ∧ left = seen) true seen := by
  induction budget using Backoffer.persist.induct with
  | case1 budget ih =>
    rw [Backoffer.persist, Routine.abides_act_locked]
    refine fun found same => ⟨act found same, ?_⟩
    have kept : (found.onWorld attempt).2.cache = seen := same
    rw [kept]
    split
    · exact ⟨rfl, rfl⟩
    · split
      · exact ⟨rfl, rfl⟩
      · next granted => exact ih _ _ _ granted

/-- A call abides by the relation, if placing it and each attempt do. -/
theorem AbidesLocked.ask_bind [Authority ω] {call : Call} {attempt : ω → Attempt α × ω}
    {next : α → Lookup ω β} {post : β → Cache → Prop}
    (placed : ∀ found : Client ω, found.cache = seen →
      R found (found.onWorld (Authority.place call)).2)
    (attempted : ∀ found : Client ω, found.cache = seen → R found (found.onWorld attempt).2)
    (h : ∀ a, AbidesLocked R (next a) seen post) :
    AbidesLocked R (ask call attempt >>= next) seen post := by
  have asks : AbidesLocked R (ask call attempt) seen fun _ left => left = seen := by
    refine fun budget => Routine.abides_act_locked.2 fun found same => ⟨placed found same, ?_⟩
    have kept : (found.onWorld (Authority.place call)).2.cache = seen := same
    rw [kept]
    exact (abides_persist budget attempted).mono (fun _ _ => id)
      fun _ _ _ left => ⟨left.1, fun _ _ => left.2⟩
  refine asks.bind ?_
  rintro a _ rfl
  exact h a

/-- An act may look at the client, count, and take a generation. -/
def Idle (R : Client ω → Client ω → Prop) : Prop :=
  ∀ client ledger metrics, R client { client with ledger, metrics }

section
variable {next : α → Lookup ω β} {post : β → Cache → Prop} (idle : Idle R)
include idle

/-- What is read off the cache is what was seen. -/
theorem AbidesLocked.read_bind {view : Client ω → α} {a : α}
    (heeds : ∀ found, found.cache = seen → view found = a)
    (h : AbidesLocked R (next a) seen post) : AbidesLocked R (read view >>= next) seen post := by
  have reads : AbidesLocked R (read view) seen fun result left => result = a ∧ left = seen :=
    fun _ => Routine.abides_act_locked.2 fun found same => ⟨idle found _ _, rfl, fun _ ok =>
      Except.ok.inj ok ▸ ⟨heeds found same, same⟩⟩
  refine reads.bind ?_
  rintro _ _ ⟨rfl, rfl⟩
  exact h

theorem AbidesLocked.record_bind {update : Update} {next : Lookup ω β}
    (h : AbidesLocked R next seen post) :
    AbidesLocked R (do change (·.record update); next) seen post := by
  have records : AbidesLocked R (change (·.record update)) seen fun _ left => left = seen :=
    fun _ => Routine.abides_act_locked.2 fun found same => ⟨idle found _ _, rfl, fun _ _ => same⟩
  refine records.bind ?_
  rintro _ _ rfl
  exact h

theorem AbidesLocked.create_bind {make : Ledger → α × Ledger}
    (h : ∀ a, AbidesLocked R (next a) seen post) :
    AbidesLocked R (create make >>= next) seen post := by
  have creates : AbidesLocked R (create make) seen fun _ left => left = seen :=
    fun _ => Routine.abides_act_locked.2 fun found same => ⟨idle found _ _, rfl, fun _ _ => same⟩
  refine creates.bind ?_
  rintro a _ rfl
  exact h a

end

/-! ## Lookups as a whole -/

/-- Does the lookup abide among others, whatever its budget? -/
def Abides (R : Client ω → Client ω → Prop) (lookup : Lookup ω α) : Prop :=
  ∀ budget, (lookup budget).Only R

theorem Abides.bind {next : α → Lookup ω β} (h : Abides R lookup) (h' : ∀ a, Abides R (next a)) :
    Abides R (lookup >>= next) := by
  intro budget seen
  rw [bind_apply, Routine.abides_bind]
  refine (h budget seen).mono (fun _ _ => id) ?_
  rintro ⟨_ | a, budget⟩ _ left rfl
  · rfl
  · exact h' a budget left

theorem abides_pure (a : α) : Abides R (pure a : Lookup ω α) := fun _ _ => rfl

theorem abides_throw (error : RouteError) : Abides R (throw error : Lookup ω α) := fun _ _ => rfl

theorem abides_change {f : Client ω → Client ω} (kept : ∀ client, (f client).cache = client.cache)
    (act : ∀ client, R client (f client)) : Abides R (change f) :=
  fun _ _ found _ => ⟨⟨fun _ => kept found, act found⟩, rfl⟩

/-- A lookup that abides under the lock does when it takes the lock itself. -/
theorem abides_exclusively (h : ∀ seen, AbidesLocked R lookup seen post) :
    Abides R (exclusively lookup) := by
  intro budget _ seen
  rw [Routine.abides_bind]
  exact (h seen budget).mono (fun _ _ => id) fun _ _ _ _ => rfl

end Lookup
end RegionRouting
