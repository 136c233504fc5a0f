import FunctionHost.Binary64.Shortest
import FunctionHost.Text.Numeral
/-!
# Binary64 values as decimal text

Writing: the shortest digits laid out positionally or with an exponent, as a `Layout` record
decides. Reading: the decimal grammar with an optional sign, digits around an optional point
(at least one digit), an optional exponent, or the words `inf`, `infinity` and `nan` in any
case; the value is the exact decimal rounded once.

Results:
* `render_zero`: zeros are written `0.0` and `-0.0` in every layout.
-/
namespace FunctionHost.Binary64

/-- Where a layout switches between positional and exponent notation, and how it spells the
parts. With `kk` the position of the decimal point relative to the first digit, the value is
written positionally when `minPoint < kk ≤ maxPoint`. -/
structure Layout where
  minPoint : Int
  maxPoint : Int
  /-- Integral values written positionally end in `.0`. -/
  pointZero : Bool
  /-- Non-negative exponents carry a `+`. -/
  plusExponent : Bool
  nanText : String
  infinityText : String

/-- The layout of numbers in documents: positional from `1e-5` up to below `1e16`, integral
values ending in `.0`, exponents written `e+16` and `e-7`. -/
def Layout.document : Layout :=
  { minPoint := -5, maxPoint := 16, pointZero := true, plusExponent := true,
    nanText := "NaN", infinityText := "inf" }

/-- The layout of plain text: always positional, integral values without a point. -/
def Layout.plain : Layout :=
  { minPoint := -400, maxPoint := 400, pointZero := false, plusExponent := false,
    nanText := "NaN", infinityText := "inf" }

def zeros (n : Nat) : String := String.ofList (List.replicate n '0')

def digitText (n : Nat) : String := String.ofList (Nat.toDigits 10 n)

/-- Lays out the digit string `ds` (no trailing zero) times `10 ^ k`. -/
def Layout.place (l : Layout) (ds : String) (k : Int) : String :=
  let len : Int := ds.length
  let kk := len + k
  if 0 ≤ k ∧ kk ≤ l.maxPoint then
    ds ++ zeros k.toNat ++ (if l.pointZero then ".0" else "")
  else if 0 < kk ∧ kk ≤ l.maxPoint then
    String.ofList (ds.toList.take kk.toNat) ++ "." ++ String.ofList (ds.toList.drop kk.toNat)
  else if l.minPoint < kk ∧ kk ≤ 0 then
    "0." ++ zeros (-kk).toNat ++ ds
  else
    let e := kk - 1
    let first := String.ofList (ds.toList.take 1)
    let rest := String.ofList (ds.toList.drop 1)
    let mantissa := if rest.isEmpty then first else first ++ "." ++ rest
    let sign := if e < 0 then "-" else if l.plusExponent then "+" else ""
    mantissa ++ "e" ++ sign ++ digitText e.natAbs

def render (l : Layout) (x : Binary64) : String :=
  let sign := if x.signBit then "-" else ""
  if x.isNaN then l.nanText
  else if x.isInfinite then sign ++ l.infinityText
  else if x.isZero then sign ++ "0.0"
  else
    let (d, k) := x.shortest
    sign ++ l.place (digitText d) k

/-- A value as plain text: positional, `0` and `-0` for the zeros. -/
def display (x : Binary64) : String :=
  if x.isZero then (if x.signBit then "-0" else "0") else render Layout.plain x

def digitCount (n : Nat) : Nat := (Nat.toDigits 10 n).length

/-- The nearest value to `mantissa · 10 ^ exp10`; magnitudes far beyond the finite range give
infinity or zero without computing the power. -/
def ofDecimal (neg : Bool) (mantissa : Nat) (exp10 : Int) : Binary64 :=
  if mantissa = 0 then zero neg
  else
    let size := (digitCount mantissa : Int) + exp10
    if 310 < size then infinity neg
    else if size < -330 then zero neg
    else match exp10 with
      | .ofNat e => roundRatio neg (mantissa * Nat.pow 10 e) 1
      | .negSucc e => roundRatio neg mantissa (Nat.pow 10 (e + 1))

/-- Splits off an optional exponent `e`/`E`, sign and digits; `none` when an exponent marker is
not followed by digits or something else is left over. -/
def readExponent? : List Char → Option Int
  | [] => some 0
  | c :: rest =>
    if c = 'e' ∨ c = 'E' then
      let (neg, ds) := match rest with
        | '+' :: ds => (false, ds)
        | '-' :: ds => (true, ds)
        | ds => (false, ds)
      if ds.isEmpty ∨ !ds.all Char.isDigit then none
      else
        let v : Int := Text.digitsValue ds
        some (if neg then -v else v)
    else none

/-- The unsigned part of a decimal: digits, an optional point and digits, an optional
exponent, or one of the words. -/
def readUnsignedDecimal? (neg : Bool) (cs : List Char) : Option Binary64 :=
  let word := String.ofList (cs.map Char.toLower)
  if word = "inf" ∨ word = "infinity" then some (infinity neg)
  else if word = "nan" then some (nan neg)
  else
    let whole := cs.takeWhile Char.isDigit
    let afterWhole := cs.dropWhile Char.isDigit
    let (fraction, tail) := match afterWhole with
      | '.' :: more => (more.takeWhile Char.isDigit, more.dropWhile Char.isDigit)
      | more => ([], more)
    if whole.isEmpty ∧ fraction.isEmpty then none
    else match readExponent? tail with
      | none => none
      | some e => some (ofDecimal neg (Text.digitsValue (whole ++ fraction)) (e - fraction.length))

/-- Reads a decimal number as text: an optional sign, then digits with an optional point and
exponent, or `inf`, `infinity`, `nan` in any case. Nothing else may surround it. -/
def readDecimal? (s : String) : Option Binary64 :=
  match s.toList with
  | '+' :: cs => readUnsignedDecimal? false cs
  | '-' :: cs => readUnsignedDecimal? true cs
  | cs => readUnsignedDecimal? false cs

theorem render_zero (l : Layout) (neg : Bool) :
    render l (zero neg) = (if neg then "-" else "") ++ "0.0" := by
  cases neg <;> rfl

-- the word `inf` reads as positive infinity
example : readDecimal? "inf" = some (infinity false) := by
  decide

end FunctionHost.Binary64
