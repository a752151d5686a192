/-
  Region routing — what a routine may come to among others.

  Between two acts of a routine others may change the state as they like, even
  while it waits for the lock or sleeps.  `Routine.MayReturn` lists the results
  that it may come to then.

  * `mayReturn_bind`: one routine after the other may return what the second may
    return after the first;
  * `mayReturn_run`: on its own a routine comes to one of these results;
  * `Lookup.MayYield`: what a lookup may find, on some budget, with a lemma for
    each way in which lookups are put together.
-/
import RegionRouting.Proofs.Heedless

namespace RegionRouting

variable {σ ω α β : Type}

/-! ## Routines -/

namespace Routine

/-- The routine may come to the result, if each act of it finds the state that
    others have left. -/
inductive MayReturn : Routine σ α → α → Prop
  | done (result : α) : MayReturn (.done result) result
  | act {change : σ → σ} {next : σ → Routine σ α} {result : α} (found : σ)
      (h : MayReturn (next found) result) : MayReturn (.act change next) result
  | acquire {next : Routine σ α} {result : α} (h : MayReturn next result) :
      MayReturn (.acquire next) result
  | release {next : Routine σ α} {result : α} (h : MayReturn next result) :
      MayReturn (.release next) result
  | sleep {ms : Nat} {next : Routine σ α} {result : α} (h : MayReturn next result) :
      MayReturn (.sleep ms next) result

variable {routine : Routine σ α} {result : α}

@[simp] theorem mayReturn_done {a : α} : (done a : Routine σ α).MayReturn result ↔ result = a := by
  constructor
  · intro h
    cases h
    rfl
  · rintro rfl
    exact .done result

@[simp] theorem mayReturn_act {change : σ → σ} {next : σ → Routine σ α} :
    (act change next).MayReturn result ↔ ∃ found, (next found).MayReturn result := by
  constructor
  · intro h
    cases h with
    | act found h => exact ⟨found, h⟩
  · rintro ⟨found, h⟩
    exact .act found h

@[simp] theorem mayReturn_acquire : (acquire routine).MayReturn result ↔
    routine.MayReturn result := by
  constructor
  · intro h
    cases h
    assumption
  · exact .acquire

@[simp] theorem mayReturn_release : (release routine).MayReturn result ↔
    routine.MayReturn result := by
  constructor
  · intro h
    cases h
    assumption
  · exact .release

@[simp] theorem mayReturn_sleep {ms : Nat} : (sleep ms routine).MayReturn result ↔
    routine.MayReturn result := by
  constructor
  · intro h
    cases h
    assumption
  · exact .sleep

@[simp] theorem mayReturn_bind {next : α → Routine σ β} {b : β} :
    (routine.bind next).MayReturn b ↔ ∃ a, routine.MayReturn a ∧ (next a).MayReturn b := by
  induction routine with
  | done result => simp [bind]
  | act change rest ih =>
    simp only [bind, mayReturn_act, ih]
    constructor
    · rintro ⟨found, a, h, h'⟩
      exact ⟨a, ⟨found, h⟩, h'⟩
    · rintro ⟨a, ⟨found, h⟩, h'⟩
      exact ⟨found, a, h, h'⟩
  | acquire _ ih => simpa only [bind, mayReturn_acquire] using ih
  | release _ ih => simpa only [bind, mayReturn_release] using ih
  | sleep _ _ ih => simpa only [bind, mayReturn_sleep] using ih

@[simp] theorem mayReturn_perform {f : σ → α × σ} :
    (perform f).MayReturn result ↔ ∃ found, result = (f found).1 := by
  simp [perform]

@[simp] theorem mayReturn_exclusively : (exclusively routine).MayReturn result ↔
    routine.MayReturn result := by
  simp [exclusively]

/-- On its own a routine finds the states that it has left itself. -/
theorem mayReturn_run (routine : Routine σ α) (state : σ) :
    routine.MayReturn (routine.run state).1 := by
  induction routine generalizing state with
  | done result => exact .done result
  | act change next ih => exact .act state (ih state (change state))
  | acquire _ ih => exact .acquire (ih state)
  | release _ ih => exact .release (ih state)
  | sleep _ _ ih => exact .sleep (ih state)

end Routine

/-! ## Lookups -/

namespace Lookup

/-- The lookup may find the value, on some budget and whatever others do. -/
def MayYield (lookup : Lookup ω α) (a : α) : Prop :=
  ∃ budget budget', (lookup budget).MayReturn (.ok a, budget')

variable {lookup : Lookup ω α} {a : α} {b : β}

@[simp] theorem mayYield_pure {a' : α} : MayYield (pure a' : Lookup ω α) a ↔ a = a' := by
  constructor
  · rintro ⟨budget, budget', h⟩
    cases Routine.mayReturn_done.1 h
    rfl
  · rintro rfl
    exact ⟨{}, {}, .done _⟩

@[simp] theorem not_mayYield_throw {error : RouteError} :
    ¬MayYield (throw error : Lookup ω α) a := by
  rintro ⟨budget, budget', h⟩
  cases Routine.mayReturn_done.1 h

theorem MayYield.of_bind {next : α → Lookup ω β} (h : MayYield (lookup >>= next) b) :
    ∃ a, MayYield lookup a ∧ MayYield (next a) b := by
  obtain ⟨budget, budget', h⟩ := h
  rw [bind_apply, Routine.mayReturn_bind] at h
  obtain ⟨⟨_ | a, budget₁⟩, first, rest⟩ := h
  · cases Routine.mayReturn_done.1 rest
  · exact ⟨a, ⟨budget, budget₁, first⟩, ⟨budget₁, budget', rest⟩⟩

theorem MayYield.of_map {f : α → β} (h : MayYield (f <$> lookup) b) :
    ∃ a, MayYield lookup a ∧ b = f a := by
  rw [map_eq_pure_bind] at h
  obtain ⟨a, found, same⟩ := h.of_bind
  exact ⟨a, found, mayYield_pure.1 same⟩

theorem MayYield.of_tryCatch {handler : RouteError → Lookup ω α}
    (h : MayYield (tryCatch lookup handler) a) :
    MayYield lookup a ∨ ∃ error, MayYield (handler error) a := by
  obtain ⟨budget, budget', h⟩ := h
  obtain ⟨⟨error | found, budget₁⟩, first, rest⟩ := Routine.mayReturn_bind.1 h
  · exact .inr ⟨error, budget₁, budget', rest⟩
  · cases Routine.mayReturn_done.1 rest
    exact .inl ⟨budget, _, first⟩

theorem MayYield.of_exclusively (h : MayYield (exclusively lookup) a) : MayYield lookup a := by
  obtain ⟨budget, budget', h⟩ := h
  exact ⟨budget, budget', Routine.mayReturn_exclusively.1 h⟩

theorem MayYield.of_create {make : Ledger → α × Ledger} (h : MayYield (create (ω := ω) make) a) :
    ∃ ledger, a = (make ledger).1 := by
  obtain ⟨budget, budget', h⟩ := h
  obtain ⟨made, first, rest⟩ := Routine.mayReturn_bind.1 h
  cases Routine.mayReturn_done.1 rest
  obtain ⟨client, same⟩ := Routine.mayReturn_perform.1 first
  exact ⟨client.ledger, same⟩

end Lookup
end RegionRouting
