/-
  Region routing — what a retry budget pays for.

  A budget pays for waits one after the other, over all the calls of an operation,
  and refuses a wait as soon as one of its limits would be passed.

  * `Backoffer.backoff_eq_ok_iff`: when a wait is paid for, and what is left then;
  * `Spends`: how signs go with what is spent of a budget; they come to a stop at a
    fault that it cannot pay for;
  * `Spends.eq_after` and `Spends.within`: what is spent are the waits, and they
    keep to the limits;
  * `Spends.fault`: a fault that a retry may help is followed by a wait, or by
    nothing.
-/
import Mathlib.Algebra.GroupWithZero.Nat
import RegionRouting.Proofs.Monitor

namespace RegionRouting

/-- A number that is cut down to a word. -/
theorem toNat_ofNatClamp (n : Nat) : (UInt64.ofNatClamp n).toNat = min n (2 ^ 64 - 1) := by
  have size : UInt64.size = 2 ^ 64 := rfl
  unfold UInt64.ofNatClamp
  split
  · rw [UInt64.toNat_ofNatLT]
    omega
  · rw [UInt64.toNat_ofNatLT]
    omega

/-! ## One wait -/

namespace Backoffer

variable {budget rest : Backoffer} {error : AuthorityError} {sleep : UInt64}

/-- A fault is waited for if a retry may help and the budget affords one. -/
theorem backoff_eq_ok_iff : budget.backoff error = .ok (sleep, rest) ↔
    error.isRetryable = true ∧ budget.affordsRetry = true ∧ sleep = budget.nextSleep ∧
      rest = { budget with attempts := budget.attempts + 1, sleptMs := budget.sleptAfterNext } := by
  unfold backoff
  cases error.isRetryable with
  | false => simp
  | true =>
    cases budget.affordsRetry with
    | false => simp
    | true => simp [eq_comm]

/-- A fault for which no wait is granted comes to a failure, which tells of the budget if
    that is what was lacking. -/
theorem backoff_eq_error {failure : RouteError} (h : budget.backoff error = .error failure) :
    error.isRetryable = false ∨ error.isRetryable = true ∧ budget.affordsRetry = false ∧
      failure = .backoffExhausted budget.attempts error := by
  unfold backoff at h
  cases retryable : error.isRetryable with
  | false => exact .inl rfl
  | true =>
    cases affords : budget.affordsRetry with
    | false =>
      rw [retryable, affords] at h
      cases h
      exact .inr ⟨rfl, rfl, rfl⟩
    | true =>
      rw [retryable, affords] at h
      cases h

/-- A budget from which waits were paid. -/
def after (config : BackoffConfig) (waited : List Nat) : Backoffer where
  config
  attempts := .ofNat waited.length
  sleptMs := .ofNatClamp waited.sum

variable {config : BackoffConfig} {waited : List Nat}

theorem after_nil (config : BackoffConfig) : after config [] = { config } := rfl

/-- The next wait comes on top. -/
theorem backoff_after (granted : (after config waited).backoff error = .ok (sleep, rest)) :
    rest = after config (waited ++ [sleep.toNat]) := by
  obtain ⟨-, -, rfl, rfl⟩ := backoff_eq_ok_iff.1 granted
  have attempts : UInt32.ofNat waited.length + 1 =
      UInt32.ofNat (waited ++ [(after config waited).nextSleep.toNat]).length := by
    rw [List.length_append, UInt32.ofNat_add]
    rfl
  have slept : (after config waited).sleptAfterNext =
      UInt64.ofNatClamp (waited ++ [(after config waited).nextSleep.toNat]).sum := by
    rw [← UInt64.toNat_inj, sleptAfterNext, after, toNat_ofNatClamp, toNat_ofNatClamp,
      toNat_ofNatClamp, List.sum_append_nat, List.sum_singleton]
    omega
  rw [slept]
  exact congrArg (Backoffer.mk config · _) attempts

end Backoffer

/-- The waits keep to the limits. -/
structure BackoffConfig.Permits (config : BackoffConfig) (waited : List Nat) : Prop where
  attempts : waited.length ≤ config.maxAttempts.toNat
  time : config.totalBudgetMs.toNat < 2 ^ 64 - 1 → waited.sum ≤ config.totalBudgetMs.toNat

namespace BackoffConfig

variable {config : BackoffConfig} {waited : List Nat}

theorem permits_nil (config : BackoffConfig) : config.Permits [] where
  attempts := Nat.zero_le _
  time _ := Nat.zero_le _

/-- One more wait is within the limits too, if the budget affords it. -/
theorem Permits.wait (h : config.Permits waited)
    (affords : (Backoffer.after config waited).affordsRetry = true) :
    config.Permits (waited ++ [(Backoffer.after config waited).nextSleep.toNat]) := by
  rw [Backoffer.affordsRetry, Bool.and_eq_true, decide_eq_true_eq, decide_eq_true_eq] at affords
  obtain ⟨fewer, short⟩ := affords
  constructor
  · have bound := config.maxAttempts.toNat_lt
    have least := h.attempts
    have now : (UInt32.ofNat waited.length).toNat = waited.length :=
      UInt32.toNat_ofNat_of_lt' (Nat.lt_of_le_of_lt h.attempts bound)
    have room : (UInt32.ofNat waited.length).toNat < config.maxAttempts.toNat :=
      UInt32.lt_iff_toNat_lt.1 fewer
    rw [List.length_append, List.length_singleton]
    omega
  · intro limited
    have slept : (UInt64.ofNatClamp waited.sum).toNat = waited.sum := by
      have before := h.time limited
      rw [toNat_ofNatClamp]
      omega
    rw [UInt64.le_iff_toNat_le, Backoffer.sleptAfterNext, toNat_ofNatClamp] at short
    simp only [Backoffer.after, slept] at short ⊢
    rw [List.sum_append_nat, List.sum_singleton]
    omega

end BackoffConfig

/-! ## Waits one after the other -/

/-- The signs go with what is spent of a budget: calls cost nothing, nor do faults
    that no retry helps, and each wait is paid for.  They stop at the fault that
    the budget cannot pay for. -/
inductive Spends : Backoffer → List Sign → Option AuthorityError → Backoffer → Prop
  | rest (budget : Backoffer) : Spends budget [] none budget
  | placed {budget budget' : Backoffer} {signs : List Sign} {stop : Option AuthorityError}
      (call : Call) (ms : Nat) (h : Spends budget signs stop budget') :
      Spends budget (.placed call :: .slept ms :: signs) stop budget'
  | lasting {budget budget' : Backoffer} {error : AuthorityError} {signs : List Sign}
      {stop : Option AuthorityError} (refused : error.isRetryable = false)
      (h : Spends budget signs stop budget') : Spends budget (.faulted error :: signs) stop budget'
  | waited {budget rest budget' : Backoffer} {error : AuthorityError} {sleep : UInt64}
      {signs : List Sign} {stop : Option AuthorityError}
      (granted : budget.backoff error = .ok (sleep, rest)) (h : Spends rest signs stop budget') :
      Spends budget (.faulted error :: .slept sleep.toNat :: signs) stop budget'
  | exhausted {budget : Backoffer} {error : AuthorityError} (retryable : error.isRetryable = true)
      (short : budget.affordsRetry = false) : Spends budget [.faulted error] (some error) budget

namespace Spends

variable {budget budget₁ budget' : Backoffer} {signs signs' : List Sign}
  {stop : Option AuthorityError} {error : AuthorityError}

/-- What did not come to a stop may go on. -/
theorem append (h : Spends budget signs none budget₁) (h' : Spends budget₁ signs' stop budget') :
    Spends budget (signs ++ signs') stop budget' := by
  generalize going : (none : Option AuthorityError) = first at h
  induction h with
  | rest => exact h'
  | placed call ms _ ih => exact .placed call ms (ih h' going)
  | lasting refused _ ih => exact .lasting refused (ih h' going)
  | waited granted _ ih => exact .waited granted (ih h' going)
  | exhausted => cases going

/-- What is spent are the waits. -/
theorem eq_after {config : BackoffConfig} {waited : List Nat}
    (h : Spends (.after config waited) signs stop budget') :
    budget' = .after config (waited ++ waits signs) := by
  generalize start : Backoffer.after config waited = budget at h
  induction h generalizing waited with
  | rest | exhausted =>
    rw [← start]
    exact congrArg (Backoffer.after config) (List.append_nil waited).symm
  | placed _ _ _ ih | lasting _ _ ih => exact ih start
  | @waited _ rest _ _ sleep signs _ granted _ ih =>
    subst start
    rw [ih (Backoffer.backoff_after granted).symm, List.append_assoc]
    rfl

/-- The waits of a computation keep to the limits. -/
theorem within {config : BackoffConfig} {waited : List Nat} (permitted : config.Permits waited)
    (h : Spends (.after config waited) signs stop budget') :
    config.Permits (waited ++ waits signs) := by
  generalize start : Backoffer.after config waited = budget at h
  induction h generalizing waited with
  | rest | exhausted => exact (List.append_nil waited).symm ▸ permitted
  | placed _ _ _ ih | lasting _ _ ih => exact ih permitted start
  | @waited _ rest _ _ sleep signs _ granted _ ih =>
    subst start
    obtain ⟨-, affords, same, -⟩ := Backoffer.backoff_eq_ok_iff.1 granted
    have next := ih (same ▸ permitted.wait affords) (Backoffer.backoff_after granted).symm
    rwa [List.append_assoc] at next

/-- A fault that a retry may help is waited for, if the budget that is left affords
    it, and is the last sign otherwise. -/
theorem fault {before rest : List Sign}
    (h : Spends budget (before ++ .faulted error :: rest) stop budget')
    (retryable : error.isRetryable = true) : ∃ budget₁, Spends budget before none budget₁ ∧
      (budget₁.affordsRetry = true ∧
          (∃ signs, rest = .slept budget₁.nextSleep.toNat :: signs) ∨
        budget₁.affordsRetry = false ∧ rest = [] ∧ stop = some error ∧ budget' = budget₁) := by
  generalize whole : before ++ .faulted error :: rest = signs at h
  induction h generalizing before with
  | rest => simp at whole
  | placed call ms _ ih =>
    -- the fault comes after the call is heard
    obtain _ | ⟨_, _ | ⟨_, before⟩⟩ := before <;> cases whole
    obtain ⟨budget₁, spent, next⟩ := ih rfl
    exact ⟨budget₁, .placed call ms spent, next⟩
  | @lasting _ _ other _ _ refused _ ih =>
    obtain _ | ⟨_, before⟩ := before <;> cases whole
    · exact absurd (refused.symm.trans retryable) Bool.false_ne_true
    · obtain ⟨budget₁, spent, next⟩ := ih rfl
      exact ⟨budget₁, .lasting refused spent, next⟩
  | @waited budget _ _ other sleep signs _ granted _ ih =>
    obtain _ | ⟨_, _ | ⟨_, before⟩⟩ := before <;> cases whole
    · obtain ⟨-, affords, rfl, -⟩ := Backoffer.backoff_eq_ok_iff.1 granted
      exact ⟨budget, .rest budget, .inl ⟨affords, signs, rfl⟩⟩
    · obtain ⟨budget₁, spent, next⟩ := ih rfl
      exact ⟨budget₁, .waited granted spent, next⟩
  | @exhausted budget _ _ short =>
    obtain _ | ⟨_, before⟩ := before
    · cases whole
      exact ⟨budget, .rest budget, .inr ⟨short, rfl, rfl, rfl⟩⟩
    · simp at whole

end Spends
end RegionRouting
