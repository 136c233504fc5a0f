import FunctionHost.Transport.Retry
/-!
# The exponential backoff schedule

The wait before retry `a` is `minWait · 2^(a-1)` capped at `maxWait`, where the doubling factor
is a 32-bit count that stops at `2^32 - 1` (from retry 33 on) and the product stops at the
largest duration. Neither saturation can make the schedule shrink: each only replaces a value by
a smaller bound that a later retry also reaches.

A duration is never longer than `Duration.max`; spans here are plain counts of nanoseconds, so
the two statements that rest on it (the lower bound and the exact product) take it as a
hypothesis on the waits.

Results:
* `doubling_eq`, `saturatingMul_nanos`: the two saturating steps as `min` over natural numbers.
* `doubling_mono`, `saturatingMul_mono`: both saturating steps are monotone.
* `le_saturatingMul`: a product by a positive count is at least the duration itself.
* `delay_nanos`: the wait as one formula over natural numbers.
* `delay_mono`: the schedule never decreases.
* `delay_exact`: for retries 1 to 32 the wait is the exact product, capped.
* `delay_schedule`: the wait is at most `maxWait`, at least the shorter of the two waits,
  never decreasing, exact up to retry 32, and retry 0 waits as retry 1.
-/
namespace FunctionHost.Transport

open RetryConfig

/-- The doubling factor as the smaller of the power and the largest 32-bit count. -/
theorem doubling_eq (k : Nat) : doubling k = min (Nat.pow 2 k) (Nat.pow 2 32 - 1) := by
  simp only [doubling, Nat.min_eq_min]

theorem doubling_pos (k : Nat) : 0 < doubling k := by
  have hp : 0 < Nat.pow 2 k := Nat.two_pow_pos k
  have hc : 0 < Nat.pow 2 32 - 1 := by decide
  rw [doubling_eq]
  omega

/-- Below 32 the factor is the exact power of two. -/
theorem doubling_of_lt {k : Nat} (h : k < 32) : doubling k = Nat.pow 2 k := by
  have hlt : Nat.pow 2 k < Nat.pow 2 32 := Nat.pow_lt_pow_right (by decide) h
  rw [doubling_eq]
  omega

theorem doubling_mono {j k : Nat} (h : j ≤ k) : doubling j ≤ doubling k := by
  have hp : Nat.pow 2 j ≤ Nat.pow 2 k := Nat.pow_le_pow_right (by decide) h
  rw [doubling_eq, doubling_eq]
  omega

theorem min_nanos (a b : Duration) : (a.min b).nanos = min a.nanos b.nanos := by
  simp only [Duration.min]
  split <;> omega

theorem saturatingMul_nanos (d : Duration) (k : Nat) :
    (d.saturatingMul k).nanos = min (d.nanos * k) Duration.max.nanos := by
  simp only [Duration.saturatingMul, Nat.min_eq_min]

theorem saturatingMul_mono (d : Duration) {j k : Nat} (h : j ≤ k) :
    (d.saturatingMul j).nanos ≤ (d.saturatingMul k).nanos := by
  have hm : d.nanos * j ≤ d.nanos * k := Nat.mul_le_mul_left _ h
  rw [saturatingMul_nanos, saturatingMul_nanos]
  omega

/-- Multiplying a duration that fits by a positive count never makes it shorter: the exact
product is at least the duration, and the cap is too. -/
theorem le_saturatingMul (d : Duration) (hd : d ≤ Duration.max) {k : Nat} (hk : 0 < k) :
    d.nanos ≤ (d.saturatingMul k).nanos := by
  have hm : d.nanos ≤ d.nanos * k := Nat.le_mul_of_pos_right _ hk
  have hmax : d.nanos ≤ Duration.max.nanos := hd
  rw [saturatingMul_nanos]
  omega

/-- The wait before retry `a`, as one formula: the product by the saturated doubling factor,
capped at the largest duration and then at `maxWait`. -/
theorem delay_nanos (c : RetryConfig) (a : Nat) :
    (c.delay a).nanos =
      min (min (c.minWait.nanos * doubling (a - 1)) Duration.max.nanos) c.maxWait.nanos := by
  simp only [delay, backoff, min_nanos, saturatingMul_nanos]

/-- A later retry never waits less: the attempt number only enters through the doubling factor,
and every step after it is monotone. -/
theorem delay_mono (c : RetryConfig) {a b : Nat} (h : a ≤ b) : c.delay a ≤ c.delay b := by
  have hd : doubling (a - 1) ≤ doubling (b - 1) := doubling_mono (by omega)
  have hs := saturatingMul_mono c.minWait hd
  show (c.delay a).nanos ≤ (c.delay b).nanos
  simp only [delay, backoff, min_nanos]
  omega

theorem delay_ge (c : RetryConfig) (hlo : c.minWait ≤ Duration.max) (a : Nat) :
    c.minWait.min c.maxWait ≤ c.delay a := by
  have hs := le_saturatingMul c.minWait hlo (doubling_pos (a - 1))
  show (c.minWait.min c.maxWait).nanos ≤ (c.delay a).nanos
  simp only [delay, backoff, min_nanos]
  omega

/-- For retries 1 to 32 the factor is exact, and a product past the largest duration is capped
at `maxWait` either way, since `maxWait` fits. -/
theorem delay_exact (c : RetryConfig) (hhi : c.maxWait ≤ Duration.max) {a : Nat} (h1 : 1 ≤ a)
    (h32 : a ≤ 32) : (c.delay a).nanos = min c.maxWait.nanos (c.minWait.nanos * Nat.pow 2 (a - 1)) := by
  have hmax : c.maxWait.nanos ≤ Duration.max.nanos := hhi
  rw [delay_nanos, doubling_of_lt (by omega)]
  omega

theorem delay_zero (c : RetryConfig) : c.delay 0 = c.delay 1 := rfl

/-- The whole schedule, for waits that are durations: never past `maxWait`, never below the
shorter of the two waits, never decreasing from one retry to the next, the exact capped product
for retries 1 to 32, and retry 0 waits as retry 1. -/
theorem delay_schedule (c : RetryConfig) (hlo : c.minWait ≤ Duration.max)
    (hhi : c.maxWait ≤ Duration.max) :
    (∀ a, c.delay a ≤ c.maxWait) ∧ (∀ a, c.minWait.min c.maxWait ≤ c.delay a) ∧
      (∀ a b, a ≤ b → c.delay a ≤ c.delay b) ∧
      (∀ a, 1 ≤ a → a ≤ 32 →
        (c.delay a).nanos = min c.maxWait.nanos (c.minWait.nanos * Nat.pow 2 (a - 1))) ∧
      c.delay 0 = c.delay 1 :=
  ⟨delay_le_maxWait c, delay_ge c hlo, fun _ _ h => delay_mono c h,
    fun _ h1 h32 => delay_exact c hhi h1 h32, delay_zero c⟩

/-- A minimum wait of the largest duration, above a five-second cap: from retry 33 on the factor
has saturated and the product too, and the wait is still at least the cap. -/
theorem delay_schedule_at_max :
    (RetryConfig.default.withWait Duration.max (Duration.ofSecs 5)).minWait ≤ Duration.max ∧
      (RetryConfig.default.withWait Duration.max (Duration.ofSecs 5)).maxWait ≤ Duration.max ∧
      (RetryConfig.default.withWait Duration.max (Duration.ofSecs 5)).minWait.min (Duration.ofSecs 5) ≤
        (RetryConfig.default.withWait Duration.max (Duration.ofSecs 5)).delay 33 :=
  ⟨by decide, by decide,
    (delay_schedule (RetryConfig.default.withWait Duration.max (Duration.ofSecs 5))
      (by decide) (by decide)).2.1 33⟩

end FunctionHost.Transport
