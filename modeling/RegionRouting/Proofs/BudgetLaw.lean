/-
  Region routing — a budget and the faults that it meets.

  A budget answers one fault after the other: it grants a wait before a retry, or it
  refuses and says why.  A fault that no retry helps costs nothing, so more may be asked
  of the budget afterwards; once a limit is reached, nothing is granted any more.

  * `Backoffer.meet` and `Backoffer.meetAll`: what a budget makes of one fault, and of
    some in turn; `Backoffer.persist_eq`: attempts at a call meet their faults so;
  * `BackoffConfig.waitAfter` are the waits in exact arithmetic, and
    `Backoffer.toNat_nextSleep` says that the words of the budget hold them;
  * `BackoffConfig.Governs` says what can be told of a budget by its configuration and
    the answers that it gave, and `BackoffConfig.governs_met` that it is so after any
    faults.
-/
import Mathlib.Data.UInt
import RegionRouting.Proofs.Budget

namespace RegionRouting

/-! ## Waits in exact arithmetic -/

namespace BackoffConfig

variable (config : BackoffConfig)

/-- The wait before the next retry, after so many. -/
def waitAfter (n : Nat) : Nat :=
  min (config.baseMs.toNat * 2 ^ min n 20) config.maxSleepMs.toNat

/-- One more retry is within the limits, after so many and so much time slept; the sum
    is cut down to a word. -/
def Fits (n slept : Nat) : Prop :=
  n < config.maxAttempts.toNat ∧
    min (slept + config.waitAfter n) (2 ^ 64 - 1) ≤ config.totalBudgetMs.toNat

theorem waitAfter_mono {m n : Nat} (le : m ≤ n) : config.waitAfter m ≤ config.waitAfter n := by
  have powers : 2 ^ min m 20 ≤ 2 ^ min n 20 := Nat.pow_le_pow_right (by decide) (by omega)
  have products := Nat.mul_le_mul_left config.baseMs.toNat powers
  unfold waitAfter
  omega

end BackoffConfig

/-! ## One fault after the other -/

/-- The failure that a refused fault comes to, after so many retries. -/
def AuthorityError.refusal (error : AuthorityError) (attempts : Nat) : RouteError :=
  if error.isRetryable then .backoffExhausted (.ofNat attempts) error else .authority error

namespace Backoffer

/-- What a budget makes of a fault: the time to wait, or a failure; and what is left of
    the budget, which is all of it if the fault was refused. -/
def meet (budget : Backoffer) (error : AuthorityError) : Except RouteError UInt64 × Backoffer :=
  match budget.backoff error with
  | .ok (sleep, rest) => (.ok sleep, rest)
  | .error failure => (.error failure, budget)

/-- What it makes of some faults in turn. -/
def meetAll (budget : Backoffer) : List AuthorityError → List (Except RouteError UInt64) × Backoffer
  | [] => ([], budget)
  | error :: errors =>
    let (answer, rest) := budget.meet error
    let (answers, last) := rest.meetAll errors
    (answer :: answers, last)

/-- The waits among some answers. -/
def granted (answers : List (Except RouteError UInt64)) : List Nat :=
  answers.filterMap fun answer => answer.toOption.map UInt64.toNat

section
variable (budget : Backoffer) (error : AuthorityError) (errors : List AuthorityError)

theorem meetAll_cons : budget.meetAll (error :: errors) =
    ((budget.meet error).1 :: ((budget.meet error).2.meetAll errors).1,
      ((budget.meet error).2.meetAll errors).2) := rfl

theorem granted_ok (sleep : UInt64) (answers : List (Except RouteError UInt64)) :
    granted (.ok sleep :: answers) = sleep.toNat :: granted answers := rfl

theorem granted_error (failure : RouteError) (answers : List (Except RouteError UInt64)) :
    granted (.error failure :: answers) = granted answers := rfl

end

/-- The attempts at a call meet their faults in this way. -/
theorem persist_eq {σ α : Type} (budget : Backoffer) (attempt : σ → Attempt α × σ) :
    budget.persist attempt = .act (fun state => (attempt state).2) fun old =>
      match (attempt old).1 with
      | .answer result => .done (result, budget)
      | .fault error =>
        match budget.meet error with
        | (.error failure, rest) => .done (.error failure, rest)
        | (.ok sleep, rest) => .sleep sleep.toNat (rest.persist attempt) := by
  rw [persist]
  congr 1
  funext old
  cases (attempt old).1 with
  | answer => rfl
  | fault error =>
    dsimp only [meet]
    split
    · next refused => rw [refused]
    · next granted => rw [granted]

variable {budget : Backoffer} {error : AuthorityError}

/-! ## Words and numbers -/

theorem toNat_nextSleep (budget : Backoffer) :
    budget.nextSleep.toNat = budget.config.waitAfter budget.attempts.toNat := by
  have cap := budget.config.maxSleepMs.toNat_lt
  rw [nextSleep, UInt64.toNat_min, toNat_ofNatClamp, Nat.shiftLeft_eq]
  unfold BackoffConfig.waitAfter
  omega

theorem affordsRetry_iff (budget : Backoffer) : budget.affordsRetry = true ↔
    budget.config.Fits budget.attempts.toNat budget.sleptMs.toNat := by
  rw [affordsRetry, Bool.and_eq_true, decide_eq_true_eq, decide_eq_true_eq,
    UInt32.lt_iff_toNat_lt, UInt64.le_iff_toNat_le, sleptAfterNext, toNat_ofNatClamp,
    toNat_nextSleep]
  rfl

/-! ## One fault -/

/-- A fault that a retry may help is granted a wait within the limits. -/
theorem meet_of_fits (retryable : error.isRetryable = true)
    (fits : budget.config.Fits budget.attempts.toNat budget.sleptMs.toNat) :
    budget.meet error = (.ok budget.nextSleep,
      { budget with attempts := budget.attempts + 1, sleptMs := budget.sleptAfterNext }) := by
  have affords := budget.affordsRetry_iff.2 fits
  rw [meet, backoff, retryable, affords]
  rfl

/-- A fault that is not retryable, or whose wait does not fit, is refused. -/
theorem meet_of_not (other : ¬(error.isRetryable = true ∧
      budget.config.Fits budget.attempts.toNat budget.sleptMs.toNat)) :
    budget.meet error = (.error (error.refusal budget.attempts.toNat), budget) := by
  rw [meet, backoff, AuthorityError.refusal, UInt32.ofNat_toNat]
  cases retryable : error.isRetryable with
  | false => rfl
  | true =>
    have short : budget.affordsRetry = false :=
      Bool.eq_false_iff.2 fun affords => other ⟨retryable, budget.affordsRetry_iff.1 affords⟩
    rw [short]
    rfl

/-- A budget that is spent refuses whatever comes, and is left as it is. -/
theorem meetAll_of_spent (spent : ¬budget.config.Fits budget.attempts.toNat budget.sleptMs.toNat)
    (errors : List AuthorityError) : budget.meetAll errors =
      (errors.map fun error => .error (error.refusal budget.attempts.toNat), budget) := by
  induction errors with
  | nil => rfl
  | cons error errors ih =>
    rw [meetAll_cons, meet_of_not fun both => spent both.2, ih, List.map_cons]

end Backoffer

/-! ## Faults in turn -/

namespace BackoffConfig

variable {config : BackoffConfig} {waited : List Nat}

/-- The waits so far were granted one by one, from a budget that was new. -/
structure Reaches (config : BackoffConfig) (waited : List Nat) : Prop
    extends config.Permits waited where
  waits : waited = (List.range waited.length).map config.waitAfter
  slept : min waited.sum (2 ^ 64 - 1) ≤ config.totalBudgetMs.toNat

theorem reaches_nil (config : BackoffConfig) : config.Reaches [] where
  toPermits := permits_nil config
  waits := rfl
  slept := Nat.zero_le _

theorem Reaches.toNat_attempts (h : config.Reaches waited) :
    (Backoffer.after config waited).attempts.toNat = waited.length := by
  have bound := config.maxAttempts.toNat_lt
  exact UInt32.toNat_ofNat_of_lt' (Nat.lt_of_le_of_lt h.attempts bound)

theorem toNat_sleptMs_after (config : BackoffConfig) (waited : List Nat) :
    (Backoffer.after config waited).sleptMs.toNat = min waited.sum (2 ^ 64 - 1) :=
  toNat_ofNatClamp waited.sum

/-- A budget goes on to one more wait, if that fits. -/
theorem Reaches.wait (h : config.Reaches waited)
    (fits : config.Fits waited.length (min waited.sum (2 ^ 64 - 1))) :
    config.Reaches (waited ++ [config.waitAfter waited.length]) := by
  have sleep :
      (Backoffer.after config waited).nextSleep.toNat = config.waitAfter waited.length := by
    rw [Backoffer.toNat_nextSleep, h.toNat_attempts]
    rfl
  have affords : (Backoffer.after config waited).affordsRetry = true := by
    rw [Backoffer.affordsRetry_iff, h.toNat_attempts, toNat_sleptMs_after]
    exact fits
  refine ⟨sleep ▸ h.toPermits.wait affords, ?_, ?_⟩
  · rw [List.length_append, List.length_singleton, List.range_succ, List.map_append, ← h.waits]
    rfl
  · have within := fits.2
    rw [List.sum_append_nat, List.sum_singleton]
    omega

/-- **In turn.** Each fault leaves a budget from which the waits granted so far were
    paid. -/
theorem Reaches.meetAll (errors : List AuthorityError) {waited : List Nat}
    (h : config.Reaches waited) :
    let met := (Backoffer.after config waited).meetAll errors
    let total := waited ++ Backoffer.granted met.1
    met.2 = .after config total ∧ config.Reaches total := by
  induction errors generalizing waited with
  | nil =>
    have total : waited ++ Backoffer.granted [] = waited := List.append_nil waited
    exact ⟨congrArg (Backoffer.after config) total.symm, total.symm ▸ h⟩
  | cons error errors ih =>
    let budget := Backoffer.after config waited
    have attempts : budget.attempts.toNat = waited.length := h.toNat_attempts
    have slept : budget.sleptMs.toNat = min waited.sum (2 ^ 64 - 1) :=
      toNat_sleptMs_after config waited
    by_cases fits : error.isRetryable = true ∧
        config.Fits budget.attempts.toNat budget.sleptMs.toNat
    · have sleep : budget.nextSleep.toNat = config.waitAfter waited.length := by
        rw [Backoffer.toNat_nextSleep, attempts]
        rfl
      have met := Backoffer.meet_of_fits fits.1 fits.2
      have rest := Backoffer.backoff_after (Backoffer.backoff_eq_ok_iff.2
        ⟨fits.1, budget.affordsRetry_iff.2 fits.2, rfl, rfl⟩)
      have next := ih (h.wait (attempts ▸ slept ▸ fits.2))
      rw [← sleep] at next
      dsimp only
      rw [Backoffer.meetAll_cons, met, rest, Backoffer.granted_ok]
      simpa only [List.append_assoc, List.singleton_append] using next
    · dsimp only
      rw [Backoffer.meetAll_cons, Backoffer.meet_of_not fits, Backoffer.granted_error]
      exact ih h

/-- What can be told of a budget by its configuration and the answers that it gave so
    far.  As many retries were taken as waits were granted, one after the other as the
    configuration has them; they never get shorter, and their number and their sum, cut
    down to a word, are what the budget has written down, within the limits.  Of the
    next fault: it is granted the next wait exactly if a retry may help and is within
    the limits; else it is refused for the reason that there is, and leaves the budget
    as it is.  A budget that is spent refuses all that comes from then on. -/
structure Governs (config : BackoffConfig) (answers : List (Except RouteError UInt64))
    (budget : Backoffer) : Prop where
  waits : Backoffer.granted answers =
    (List.range (Backoffer.granted answers).length).map config.waitAfter
  rising : (Backoffer.granted answers).Pairwise (· ≤ ·)
  attempts : budget.attempts.toNat = (Backoffer.granted answers).length
  fewer : (Backoffer.granted answers).length ≤ config.maxAttempts.toNat
  slept : budget.sleptMs.toNat = min (Backoffer.granted answers).sum (2 ^ 64 - 1)
  within : budget.sleptMs.toNat ≤ config.totalBudgetMs.toNat
  exact : config.totalBudgetMs.toNat < 2 ^ 64 - 1 →
    (Backoffer.granted answers).sum ≤ config.totalBudgetMs.toNat
  grants (error : AuthorityError) : error.isRetryable = true →
    config.Fits budget.attempts.toNat budget.sleptMs.toNat → ∃ sleep rest,
      budget.meet error = (.ok sleep, rest) ∧
        sleep.toNat = config.waitAfter budget.attempts.toNat
  refuses (error : AuthorityError) : ¬(error.isRetryable = true ∧
      config.Fits budget.attempts.toNat budget.sleptMs.toNat) →
    budget.meet error = (.error (error.refusal budget.attempts.toNat), budget)
  spent : ¬config.Fits budget.attempts.toNat budget.sleptMs.toNat → ∀ errors,
    budget.meetAll errors =
      (errors.map fun error => .error (error.refusal budget.attempts.toNat), budget)

/-- **Budgets.** Whatever faults a new budget meets, its answers and what is left of it
    are as its configuration has it. -/
theorem governs_met (config : BackoffConfig) (errors : List AuthorityError) :
    let met := Backoffer.meetAll { config } errors
    config.Governs met.1 met.2 := by
  intro met
  obtain ⟨left, reached⟩ := config.reaches_nil.meetAll errors
  have budget : met.2 = .after config (Backoffer.granted met.1) := left
  have total : config.Reaches (Backoffer.granted met.1) := reached
  have own : met.2.config = config := by rw [budget]; rfl
  have slept : met.2.sleptMs.toNat = min (Backoffer.granted met.1).sum (2 ^ 64 - 1) := by
    rw [budget, toNat_sleptMs_after]
  refine ⟨total.waits, ?_, ?_, total.attempts, slept, ?_, total.time, ?_, ?_, ?_⟩
  · rw [total.waits, List.pairwise_map]
    exact List.pairwise_lt_range.imp fun less => config.waitAfter_mono (Nat.le_of_lt less)
  · rw [budget, total.toNat_attempts]
  · exact slept ▸ total.slept
  · intro error retryable fits
    refine ⟨_, _, Backoffer.meet_of_fits retryable (own.symm ▸ fits), ?_⟩
    rw [Backoffer.toNat_nextSleep, own]
  · intro error other
    exact Backoffer.meet_of_not (own.symm ▸ other)
  · intro spent errors
    exact Backoffer.meetAll_of_spent (own.symm ▸ spent) errors

/-- A fault that no retry helps costs nothing; the second wait is cut to the longest
    sleep, and the third one would be over the budget. -/
example : (Backoffer.meetAll { config := ⟨9, 10, 15, 30⟩ }
    [.internal "busy", .regionNotFound, .timeout 5, .internal "busy", .timeout 5]).1 =
      [.ok 10, .error (.authority .regionNotFound), .ok 15,
        .error (.backoffExhausted 2 (.internal "busy")),
        .error (.backoffExhausted 2 (.timeout 5))] := by rfl

end BackoffConfig
end RegionRouting
