/-!
# Moments of a run

Work that waits is timed on a clock that starts at zero. A moment is a whole number of
nanoseconds, and a flag that says the step ending there waited on the network: such a step ends
just after its instant, never exactly on it, because an answer from the network always takes a
turn of the scheduler however fast it comes. Sleeping ends exactly on an instant, and sleeping
for nothing does not wait at all.

A deadline at `d` passes before the work ending at `m` is done when `m` lies after `d`: later
in nanoseconds, or on `d` itself but just after it. A cancellation at `c` has happened by `m` when
`c` is not later than `m`'s instant, and it cuts short the work ending at `m` only when it comes
strictly before that instant.

Results:
* `passes_wait`: a deadline passes before a sleep that ends after it.
* `wait_zero`: sleeping for nothing changes nothing.
-/
namespace FunctionHost

/-- An instant of a run, with whether the step ending there ends just after it. -/
structure Moment where
  nanos : Nat
  settling : Bool
  deriving DecidableEq, Repr

namespace Moment

def start : Moment := ⟨0, false⟩

/-- The moment after sleeping `d` nanoseconds. -/
def wait (m : Moment) (d : Nat) : Moment := if d = 0 then m else ⟨m.nanos + d, false⟩

/-- The moment after a step that waited on the network. -/
def settle (m : Moment) : Moment := { m with settling := true }

/-- Whether a deadline at `d` passes before the work ending at `m` is done. -/
def passes (m : Moment) (d : Nat) : Bool := d < m.nanos || (d == m.nanos && m.settling)

/-- Whether a cancellation at the instant `c`, if any, has happened by `m`. -/
def reached (m : Moment) : Option Nat → Bool
  | some c => c ≤ m.nanos
  | none => false

/-- Whether a cancellation at the instant `c`, if any, comes strictly before the instant of `m`,
cutting short the work that ends at `m`. -/
def overtaken (m : Moment) : Option Nat → Bool
  | some c => c < m.nanos
  | none => false

end Moment

theorem passes_wait (m : Moment) (d k : Nat) (hk : 0 < k) (h : d < m.nanos + k) :
    (m.wait k).passes d = true := by
  have hk' : k ≠ 0 := by omega
  simp [Moment.wait, Moment.passes, hk', h]

theorem wait_zero (m : Moment) : m.wait 0 = m := by simp [Moment.wait]

theorem Moment.nanos_le_wait (m : Moment) (d : Nat) : m.nanos ≤ (m.wait d).nanos := by
  unfold Moment.wait
  split <;> simp

theorem Moment.nanos_lt_of_unreached {m : Moment} {c : Nat} (h : m.reached (some c) = false) :
    m.nanos < c := by
  simpa [Moment.reached] using h

theorem Moment.unreached_of_lt {m : Moment} {c : Nat} (h : m.nanos < c) :
    m.reached (some c) = false := by
  simpa [Moment.reached] using h

end FunctionHost
