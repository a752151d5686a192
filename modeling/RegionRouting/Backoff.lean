/-
  Region routing — retry budgets.

  A `Backoffer` is the budget of one logical operation: how often a failed
  call to the authority may be retried, how long to sleep before each retry,
  and how long to sleep in all.  Sleeps double from a base up to a cap.  Times
  are 64-bit words of milliseconds, and sums that do not fit stop at the
  greatest word.

  * `Backoffer.backoff` spends one retry, or refuses;
  * `retries_lt_of_backoff`: a granted retry leaves fewer for later, so that
    asking again and again comes to an end.
-/
import RegionRouting.Error

namespace RegionRouting

/-- The limits of a retry budget: the number of retries, the first sleep, the
    longest sleep, and the sum of all sleeps. -/
structure BackoffConfig where
  maxAttempts : UInt32 := 10
  baseMs : UInt64 := 100
  maxSleepMs : UInt64 := 2000
  totalBudgetMs : UInt64 := 20000
  deriving DecidableEq

/-- A retry budget with what has been spent of it. -/
structure Backoffer where
  config : BackoffConfig := {}
  attempts : UInt32 := 0
  sleptMs : UInt64 := 0
  deriving DecidableEq

namespace Backoffer

/-- The sleep before the next retry: the base, doubled for each retry taken
    (twenty times at most), and no longer than the cap. -/
def nextSleep (b : Backoffer) : UInt64 :=
  min (.ofNatClamp (b.config.baseMs.toNat <<< min b.attempts.toNat 20)) b.config.maxSleepMs

/-- The time slept in all once the next sleep is over. -/
def sleptAfterNext (b : Backoffer) : UInt64 :=
  .ofNatClamp (b.sleptMs.toNat + b.nextSleep.toNat)

/-- Is there a retry left, and time for the sleep before it? -/
def affordsRetry (b : Backoffer) : Bool :=
  b.attempts < b.config.maxAttempts && b.sleptAfterNext ≤ b.config.totalBudgetMs

/-- Spends one retry on an error: the time to sleep, and the budget after it.
    An error that no retry helps is handed back, and so is the one that the
    budget cannot pay for. -/
def backoff (b : Backoffer) (error : AuthorityError) : Except RouteError (UInt64 × Backoffer) :=
  if !error.isRetryable then
    .error (.authority error)
  else if b.affordsRetry then
    .ok (b.nextSleep, { b with attempts := b.attempts + 1, sleptMs := b.sleptAfterNext })
  else
    .error (.backoffExhausted b.attempts error)

/-- The retries left. -/
def retries (b : Backoffer) : Nat :=
  b.config.maxAttempts.toNat - b.attempts.toNat

/-- A granted retry leaves fewer for later. -/
theorem retries_lt_of_backoff {b b' : Backoffer} {error : AuthorityError} {sleep : UInt64}
    (h : b.backoff error = .ok (sleep, b')) : b'.retries < b.retries := by
  unfold backoff at h
  split at h
  · cases h
  split at h
  · next affordable =>
    cases h
    have room : b.attempts.toNat < b.config.maxAttempts.toNat := by
      simp only [affordsRetry, Bool.and_eq_true, decide_eq_true_eq] at affordable
      exact UInt32.lt_iff_toNat_lt.1 affordable.1
    have bound := b.config.maxAttempts.toNat_lt
    have next : (b.attempts + 1).toNat = b.attempts.toNat + 1 := by
      rw [UInt32.toNat_add]
      exact Nat.mod_eq_of_lt (by simpa using by omega)
    simp only [retries, next]
    omega
  · cases h

end Backoffer
end RegionRouting
