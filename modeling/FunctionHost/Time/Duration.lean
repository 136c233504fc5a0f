/-!
# Durations

A span of time as a whole number of nanoseconds, up to the largest span written with a 64-bit
count of seconds and a count of nanoseconds below one second. Arithmetic that would pass the
largest span stops at it.

A duration is written for people as its largest unit with the rest as a decimal fraction without
trailing zeros: `10s`, `1.5s`, `250ms`, `1.5µs`, `0ns`.

Results:
* `saturatingMul_le_max`: multiplication never passes the largest span.
* `ofSecs_seconds`: a count of seconds has that many whole seconds.
-/
namespace FunctionHost

/-- A span of time in nanoseconds. -/
structure Duration where
  nanos : Nat
  deriving DecidableEq, Repr, Inhabited

namespace Duration

def nanosPerSecond : Nat := 1000000000

/-- The largest span: `2^64 - 1` seconds and `999999999` nanoseconds. -/
def max : Duration := ⟨(Nat.pow 2 64 - 1) * nanosPerSecond + (nanosPerSecond - 1)⟩

instance : LE Duration := ⟨fun a b => a.nanos ≤ b.nanos⟩
instance : LT Duration := ⟨fun a b => a.nanos < b.nanos⟩
instance (a b : Duration) : Decidable (a ≤ b) := inferInstanceAs (Decidable (a.nanos ≤ b.nanos))
instance (a b : Duration) : Decidable (a < b) := inferInstanceAs (Decidable (a.nanos < b.nanos))

def zero : Duration := ⟨0⟩

def ofSecs (s : Nat) : Duration := ⟨s * nanosPerSecond⟩

def ofMillis (ms : Nat) : Duration := ⟨ms * 1000000⟩

def secs (d : Duration) : Nat := d.nanos / nanosPerSecond

def subsecNanos (d : Duration) : Nat := d.nanos % nanosPerSecond

def isZero (d : Duration) : Bool := d.nanos == 0

/-- Whether a span fits: at most the largest span. -/
def fits (d : Duration) : Bool := d.nanos ≤ max.nanos

def min (a b : Duration) : Duration := if a.nanos ≤ b.nanos then a else b

def saturatingAdd (a b : Duration) : Duration := ⟨Nat.min (a.nanos + b.nanos) max.nanos⟩

/-- The product by a count, stopping at the largest span. -/
def saturatingMul (d : Duration) (k : Nat) : Duration := ⟨Nat.min (d.nanos * k) max.nanos⟩

/-- The digits of a fraction `part / (10 · divisor)` without trailing zeros, most significant
first; `divisor` is the place value of the first digit. -/
def fractionDigits (part divisor : Nat) : Nat → String
  | 0 => ""
  | fuel + 1 =>
    if part = 0 ∨ divisor = 0 then ""
    else
      let digit := part / divisor
      String.singleton (Char.ofNat (48 + digit)) ++ fractionDigits (part % divisor) (divisor / 10) fuel

def decimalText (whole part divisor : Nat) (unit : String) : String :=
  let frac := fractionDigits part divisor 10
  toString whole ++ (if frac.isEmpty then "" else "." ++ frac) ++ unit

/-- The span as people read it: in seconds from one second, else in milliseconds from one
millisecond, else in microseconds from one microsecond, else in nanoseconds. -/
def text (d : Duration) : String :=
  let n := d.subsecNanos
  if 0 < d.secs then decimalText d.secs n 100000000 "s"
  else if 1000000 ≤ n then decimalText (n / 1000000) (n % 1000000) 100000 "ms"
  else if 1000 ≤ n then decimalText (n / 1000) (n % 1000) 100 "µs"
  else decimalText n 0 1 "ns"

end Duration

theorem saturatingMul_le_max (d : Duration) (k : Nat) :
    (d.saturatingMul k).nanos ≤ Duration.max.nanos := by
  simp only [Duration.saturatingMul]
  exact Nat.min_le_right _ _

theorem ofSecs_seconds (s : Nat) : (Duration.ofSecs s).secs = s := by
  simp [Duration.ofSecs, Duration.secs, Duration.nanosPerSecond]

end FunctionHost
