import FunctionHost.Binary64.Basic
/-!
# Shortest decimal digits

For a finite non-zero binary64 value the fewest significant decimal digits that read back as
that value, and of those the nearest to it. The reals that round to the value form an interval
around it whose ends are halfway to the two neighbouring values (the lower gap is half as wide
at a power of two), ends included when the significand is even. For 1, 2, …, 17 digits the two
points of that decimal grid next to the value are tested in exact arithmetic; the first grid
with a point inside the interval gives the digits, the nearer point when both are inside, and
the even one at an exact tie.

Results:
* `stripZeros_mul`: removing trailing zeros keeps the value `digits · 10 ^ exponent`.
-/
namespace FunctionHost.Binary64

/-- `a / b < c / d` for positive denominators, by cross multiplication. -/
def ratioLt (a b c d : Nat) : Bool := a * d < c * b

def pow10Ratio : Int → Nat × Nat
  | .ofNat k => (Nat.pow 10 k, 1)
  | .negSucc k => (1, Nat.pow 10 (k + 1))

/-- Moves an estimate `e` of `⌊log10 (num / den)⌋` to the true value, checking at most `fuel`
steps in each direction. -/
def adjustLog10 (num den : Nat) (e : Int) : Nat → Int
  | 0 => e
  | fuel + 1 =>
    let (a, b) := pow10Ratio e
    let (c, d) := pow10Ratio (e + 1)
    if ratioLt num den a b then adjustLog10 num den (e - 1) fuel
    else if ratioLt num den c d then e
    else adjustLog10 num den (e + 1) fuel

/-- `⌊log10 (num / den)⌋` for a positive ratio; the estimate from the binary logarithms is off
by at most one. -/
def floorLog10 (num den : Nat) : Int :=
  let twos : Int := (Nat.log2 num : Int) - (Nat.log2 den : Int)
  adjustLog10 num den (twos * 30103 / 100000) 4

/-- Removes trailing zeros from a digit string `digits · 10 ^ exponent`, keeping its value. -/
def stripZeros (digits : Nat) (exponent : Int) : Nat → Nat × Int
  | 0 => (digits, exponent)
  | fuel + 1 =>
    if digits ≠ 0 ∧ digits % 10 = 0 then stripZeros (digits / 10) (exponent + 1) fuel
    else (digits, exponent)

/-- The interval of reals that round to a finite non-zero value, as the numerators of its ends
and of the value over a common denominator, with whether the ends belong to it. -/
structure RoundingInterval where
  low : Nat
  value : Nat
  high : Nat
  denominator : Nat
  closed : Bool

/-- The rounding interval of a finite non-zero value. Scaling by 4 keeps the ends integral. -/
def roundingInterval (x : Binary64) : RoundingInterval :=
  let m := x.significand
  let (n, d) := x.magnitude
  let closerBelow := x.fractionField == 0 && 1 < x.exponentField
  let low := if closerBelow then 4 * m - 1 else 4 * m - 2
  -- the value is n / d = m · 2^q, so one quarter unit is n / (4 · d · m)
  { low := low * n, value := 4 * m * n, high := (4 * m + 2) * n,
    denominator := 4 * d * m, closed := m % 2 == 0 }

def RoundingInterval.contains (iv : RoundingInterval) (g : Nat) (k : Int) : Bool :=
  let (a, b) := pow10Ratio k
  let num := g * a
  let aboveLow :=
    if iv.closed then !ratioLt num b iv.low iv.denominator
    else ratioLt iv.low iv.denominator num b
  let belowHigh :=
    if iv.closed then !ratioLt iv.high iv.denominator num b
    else ratioLt num b iv.high iv.denominator
  aboveLow && belowHigh

/-- The digits chosen on the grid of `10 ^ k`, if one of the two grid points next to the value
lies in its interval. -/
def gridChoice (iv : RoundingInterval) (k : Int) : Option Nat :=
  let (a, b) := pow10Ratio k
  -- t = ⌊value / 10^k⌋
  let t := iv.value * b / (iv.denominator * a)
  let lowIn := iv.contains t k
  let highIn := iv.contains (t + 1) k
  if lowIn && highIn then
    -- distances value - t·10^k and (t+1)·10^k - value, over the common denominator d·b
    let below := iv.value * b - t * a * iv.denominator
    let above := (t + 1) * a * iv.denominator - iv.value * b
    if below < above then some t
    else if above < below then some (t + 1)
    else if t % 2 = 0 then some t else some (t + 1)
  else if lowIn then some t
  else if highIn then some (t + 1)
  else none

/-- Tries grids of `n`, `n + 1`, … significant digits up to 17. -/
def searchDigits (iv : RoundingInterval) (top : Int) (n : Nat) : Nat → Nat × Int
  | 0 =>
    let k := top - 16
    let (a, b) := pow10Ratio k
    (iv.value * b / (iv.denominator * a), k)
  | fuel + 1 =>
    let k := top - (n : Int) + 1
    match gridChoice iv k with
    | some g => (g, k)
    | none => searchDigits iv top (n + 1) fuel

/-- The shortest digits `d` and exponent `k` with `d · 10 ^ k` reading back as the finite
non-zero value `x`; `d` has no trailing zero. -/
def shortest (x : Binary64) : Nat × Int :=
  let iv := roundingInterval x
  let top := floorLog10 iv.value iv.denominator
  let (g, k) := searchDigits iv top 1 17
  stripZeros g k 20

theorem stripZeros_mul (digits : Nat) (exponent : Int) (fuel : Nat) :
    let r := stripZeros digits exponent fuel
    r.1 * Nat.pow 10 (r.2 - exponent).toNat = digits ∧ exponent ≤ r.2 := by
  simp only [Nat.pow_eq]
  induction fuel generalizing digits exponent with
  | zero => simp [stripZeros]
  | succ fuel ih =>
    simp only [stripZeros]
    split
    · next h =>
      obtain ⟨h1, h2⟩ := ih (digits / 10) (exponent + 1)
      refine ⟨?_, by omega⟩
      have hk : (stripZeros (digits / 10) (exponent + 1) fuel).2 - exponent
          = ((stripZeros (digits / 10) (exponent + 1) fuel).2 - (exponent + 1)) + 1 := by omega
      rw [hk, Int.toNat_add (by omega) (by omega), Int.toNat_one, Nat.pow_succ, ← Nat.mul_assoc, h1]
      omega
    · simp

end FunctionHost.Binary64
