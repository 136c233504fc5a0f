/-!
# Binary64 numbers

IEEE 754 double precision values held as their 64 bits. Every finite value is
`significand · 2 ^ binaryExponent`, an exact ratio of natural numbers; arithmetic is carried
out on those exact ratios and rounded once, to the nearest value with ties going to an even
significand, which is what the standard asks of multiplication, division and conversion from
integers.

Results:
* `roundRatio_zero`: a zero ratio rounds to a zero of the requested sign.
* `neg_neg`: negation flips the sign bit only, so applying it twice is the identity.
* `lt_nan`: nothing is less than NaN.
-/
namespace FunctionHost

/-- An IEEE 754 binary64 value, as its 64 bits. -/
structure Binary64 where
  bits : UInt64
  deriving DecidableEq, Repr, Inhabited

namespace Binary64

def signBit (x : Binary64) : Bool := (x.bits >>> 63) == 1

/-- The biased exponent field, 0 to 2047. -/
def exponentField (x : Binary64) : Nat := ((x.bits >>> 52) &&& 0x7FF).toNat

/-- The 52 fraction bits. -/
def fractionField (x : Binary64) : Nat := (x.bits &&& 0xFFFFFFFFFFFFF).toNat

/-- Not a number: the exponent field is full and the fraction is not zero. -/
def isNaN (x : Binary64) : Bool := x.exponentField == 2047 && x.fractionField != 0

/-- An infinity: the exponent field is full and the fraction is zero. -/
def isInfinite (x : Binary64) : Bool := x.exponentField == 2047 && x.fractionField == 0

def isFinite (x : Binary64) : Bool := x.exponentField != 2047

def isZero (x : Binary64) : Bool := x.exponentField == 0 && x.fractionField == 0

/-- The significand of a finite value: the fraction with its hidden bit when the value is
normal. -/
def significand (x : Binary64) : Nat :=
  if x.exponentField == 0 then x.fractionField else x.fractionField + Nat.pow 2 52

/-- The exponent `q` for which a finite value's magnitude is `significand · 2 ^ q`. -/
def binaryExponent (x : Binary64) : Int :=
  ((if x.exponentField == 0 then 1 else x.exponentField : Nat) : Int) - 1075

/-- The value with the given sign, exponent field and fraction field. -/
def make (neg : Bool) (exponentField fraction : Nat) : Binary64 :=
  ⟨UInt64.ofNat ((if neg then Nat.pow 2 63 else 0) + exponentField * Nat.pow 2 52 + fraction)⟩

def zero (neg : Bool) : Binary64 := make neg 0 0

def infinity (neg : Bool) : Binary64 := make neg 2047 0

/-- The quiet NaN that readers produce for the text `nan`. -/
def nan (neg : Bool) : Binary64 := make neg 2047 (Nat.pow 2 51)

def neg (x : Binary64) : Binary64 := ⟨x.bits ^^^ 0x8000000000000000⟩

/-- The magnitude of a finite value as a ratio `(numerator, denominator)` of naturals whose
denominator is a power of two. -/
def magnitude (x : Binary64) : Nat × Nat :=
  match x.binaryExponent with
  | .ofNat q => (x.significand * Nat.pow 2 q, 1)
  | .negSucc q => (x.significand, Nat.pow 2 (q + 1))

/-- The quotient and remainder of `num / (den · 2 ^ e)`, with the divisor, for an exponent `e`
of either sign. -/
def scaledDivision (num den : Nat) (e : Int) : Nat × Nat × Nat :=
  match e with
  | .ofNat k => (num / (den * Nat.pow 2 k), num % (den * Nat.pow 2 k), den * Nat.pow 2 k)
  | .negSucc k => (num * Nat.pow 2 (k + 1) / den, num * Nat.pow 2 (k + 1) % den, den)

/-- Packs a significand that may have reached 2^53 after rounding up, at exponent `e`. -/
def pack (neg : Bool) (m : Nat) (e : Int) : Binary64 :=
  let (m, e) := if m = Nat.pow 2 53 then (Nat.pow 2 52, e + 1) else (m, e)
  if m < Nat.pow 2 52 then make neg 0 m
  else
    let field := e + 1075
    if 2047 ≤ field then infinity neg else make neg field.toNat (m - Nat.pow 2 52)

/-- Rounds the ratio `num / den` to the nearest binary64 value, a tie going to the even
significand; a result beyond the largest finite value is infinity. The sign is `neg`. -/
def roundRatio (neg : Bool) (num den : Nat) : Binary64 :=
  if num = 0 ∨ den = 0 then zero neg
  else
    -- the quotient at this exponent lies in [2^51, 2^53)
    let e0 : Int := (Nat.log2 num : Int) - (Nat.log2 den : Int) - 52
    let e1 := if (scaledDivision num den e0).1 < Nat.pow 2 52 then e0 - 1 else e0
    let e := if e1 < -1074 then -1074 else e1
    let (q, r, d) := scaledDivision num den e
    let up := d < 2 * r || (2 * r = d && q % 2 = 1)
    pack neg (if up then q + 1 else q) e

def ofNat (n : Nat) : Binary64 := roundRatio false n 1

def ofInt (i : Int) : Binary64 := roundRatio (decide (i < 0)) i.natAbs 1

def mul (x y : Binary64) : Binary64 :=
  let neg := x.signBit != y.signBit
  if x.isNaN || y.isNaN then nan false
  else if x.isInfinite || y.isInfinite then
    if x.isZero || y.isZero then nan false else infinity neg
  else
    let (a, b) := x.magnitude
    let (c, d) := y.magnitude
    roundRatio neg (a * c) (b * d)

def div (x y : Binary64) : Binary64 :=
  let neg := x.signBit != y.signBit
  if x.isNaN || y.isNaN then nan false
  else if x.isInfinite then (if y.isInfinite then nan false else infinity neg)
  else if y.isInfinite then zero neg
  else if y.isZero then (if x.isZero then nan false else infinity neg)
  else
    let (a, b) := x.magnitude
    let (c, d) := y.magnitude
    roundRatio neg (a * d) (b * c)

/-- The signed value of a finite value's numerator, over its denominator `den`. -/
def signedOver (x : Binary64) (den : Nat) : Int :=
  let (a, _) := x.magnitude
  if x.signBit then -((a * den : Nat) : Int) else ((a * den : Nat) : Int)

/-- The sum, rounded once; an exact zero is negative only when both terms are. -/
def add (x y : Binary64) : Binary64 :=
  if x.isNaN || y.isNaN then nan false
  else if x.isInfinite && y.isInfinite then (if x.signBit == y.signBit then x else nan false)
  else if x.isInfinite then x
  else if y.isInfinite then y
  else
    let b := x.magnitude.2
    let d := y.magnitude.2
    let s := x.signedOver d + y.signedOver b
    if s = 0 then zero (x.signBit && y.signBit)
    else roundRatio (decide (s < 0)) s.natAbs (b * d)

/-- Whether `x` is less than `y`; nothing is less or greater than NaN, and the zeros are equal. -/
def lt (x y : Binary64) : Bool :=
  if x.isNaN || y.isNaN then false
  else if x.isInfinite then x.signBit && !(y.isInfinite && y.signBit)
  else if y.isInfinite then !y.signBit
  else decide (x.signedOver y.magnitude.2 < y.signedOver x.magnitude.2)

def isIntegral (x : Binary64) : Bool :=
  x.isFinite && (let (a, b) := x.magnitude; a % b == 0)

/-- The integer part of a finite value, rounding toward zero. -/
def truncate (x : Binary64) : Int :=
  let (a, b) := x.magnitude
  if x.signBit then -((a / b : Nat) : Int) else ((a / b : Nat) : Int)

/-- Conversion to a signed integer of `bits` bits that saturates at both ends and sends NaN to
zero. -/
def toIntSaturating (bits : Nat) (x : Binary64) : Int :=
  let lo : Int := -(Nat.pow 2 (bits - 1) : Nat)
  let hi : Int := ((Nat.pow 2 (bits - 1) - 1 : Nat) : Int)
  if x.isNaN then 0
  else if x.isInfinite then (if x.signBit then lo else hi)
  else max lo (min hi x.truncate)

theorem roundRatio_zero (neg : Bool) (den : Nat) : roundRatio neg 0 den = zero neg := by
  simp [roundRatio]

theorem neg_neg (x : Binary64) : x.neg.neg = x := by
  cases x
  simp only [neg, UInt64.xor_assoc, UInt64.xor_self, UInt64.xor_zero]

end Binary64

theorem lt_nan (x : Binary64) (neg : Bool) : x.lt (Binary64.nan neg) = false := by
  have : (Binary64.nan neg).isNaN = true := by cases neg <;> decide
  simp [Binary64.lt, this]

end FunctionHost
