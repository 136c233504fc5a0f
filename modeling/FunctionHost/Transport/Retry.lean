import FunctionHost.Time.Duration
/-!
# Retry settings and the exponential backoff

A client retries a failed attempt at most `maxRetries` times. Before retry number `a` (counted
from 1) it waits `minWait · 2^(a-1)`, capped at `maxWait`. The doubling factor is a 32-bit
count that stops at its largest value, and the product stops at the largest duration, so the
wait never overflows and never passes `maxWait`.

Results:
* `delay_le_maxWait`: a wait is never longer than `maxWait`.
* `delay_first`: the first retry waits `minWait` when that is within `maxWait`.
-/
namespace FunctionHost.Transport

/-- How often and how patiently a client retries. -/
structure RetryConfig where
  maxRetries : Nat
  minWait : Duration
  maxWait : Duration
  deriving DecidableEq, Repr

namespace RetryConfig

/-- No retries, waits from 100 ms up to 5 s. -/
def default : RetryConfig :=
  { maxRetries := 0, minWait := Duration.ofMillis 100, maxWait := Duration.ofSecs 5 }

/-- The default waits with a number of retries. -/
def withRetries (n : Nat) : RetryConfig := { default with maxRetries := n }

def withWait (c : RetryConfig) (lo hi : Duration) : RetryConfig :=
  { c with minWait := lo, maxWait := hi }

/-- `2 ^ k` as a 32-bit count that stops at its largest value. -/
def doubling (k : Nat) : Nat := Nat.min (Nat.pow 2 k) (Nat.pow 2 32 - 1)

/-- The exponential backoff: `lo · 2^(attempt-1)` capped at `hi`. Mirrors the exponential backoff's
`delay`. -/
def backoff (attempt : Nat) (lo hi : Duration) : Duration :=
  (lo.saturatingMul (doubling (attempt - 1))).min hi

/-- The wait before a retry, counted from 1. Mirrors `delay_for_attempt`. -/
def delay (c : RetryConfig) (attempt : Nat) : Duration := backoff attempt c.minWait c.maxWait

def text (c : RetryConfig) : String :=
  "RetryConfig \x7b max_retries: " ++ toString c.maxRetries ++ ", min_wait: " ++ c.minWait.text ++
    ", max_wait: " ++ c.maxWait.text ++
    ", backoff: ExponentialBackoff, policy: DefaultRetryPolicy \x7d"

end RetryConfig

theorem delay_le_maxWait (c : RetryConfig) (a : Nat) : (c.delay a).nanos ≤ c.maxWait.nanos := by
  simp only [RetryConfig.delay, RetryConfig.backoff, Duration.min]
  split
  · assumption
  · exact Nat.le_refl _

theorem delay_first (c : RetryConfig) (h : c.minWait.nanos ≤ c.maxWait.nanos)
    (hm : c.minWait.nanos ≤ Duration.max.nanos) : c.delay 1 = c.minWait := by
  simp [RetryConfig.delay, RetryConfig.backoff, RetryConfig.doubling, Duration.saturatingMul,
    Duration.min, Nat.min_eq_left hm, h]

end FunctionHost.Transport
