import FunctionHost.Time.Duration
import FunctionHost.Text.Blank
import FunctionHost.Text.Numeral
/-!
# Durations written in words

A duration phrase is a sum of terms `<number><unit>`, blanks allowed between and inside terms
(`1m 30s`, `1 m 30 s`, `1m30s`). A number is decimal digits with an optional fraction; a unit is
one of

* `nanos`, `nsec`, `ns`; `usec`, `us`, `µs`; `millis`, `msec`, `ms`;
* `seconds`, `second`, `secs`, `sec`, `s`; `minutes`, `minute`, `min`, `mins`, `m`;
* `hours`, `hour`, `hr`, `hrs`, `h`; `days`, `day`, `d`; `weeks`, `week`, `wk`, `wks`, `w`;
* `months`, `month`, `M` (30.44 days); `years`, `year`, `yr`, `yrs`, `y` (365.25 days).

Counts are checked against 64 bits: the digits of a number and of its fraction, ten to the power
of the fraction's length, a count of seconds, or for the units below a second a count of
nanoseconds. A fraction must come to a whole count: of nanoseconds for the units up to a minute,
of seconds for the longer ones; a nanosecond takes no fraction at all.

The terms are added up one after the other, the whole part of a term before its fraction. The
running total is a duration, with fewer nanoseconds than a second: a term's seconds are added to
its seconds and its nanoseconds to its nanoseconds, each sum checked against 64 bits, and then the
whole seconds among the nanoseconds are carried into the seconds. A carry that takes the seconds
past the largest count cannot be formed as a duration at all, and reading stops there, whatever
follows.

A setting that holds a duration is either a whole number of seconds or a phrase.

Results:
* `parseSetting_secs`: a setting that reads as a count of seconds is that many seconds.
-/
namespace FunctionHost.Time

/-- Why a text gives no duration. -/
inductive DurationError where
  /-- The text is not a duration. -/
  | invalid
  /-- The terms add up past the largest duration when the last second is carried. -/
  | overflow
  deriving DecidableEq, Repr

/-- Nanoseconds per unit of a unit name. -/
def unitNanos : String → Option Nat
  | "nanos" | "nsec" | "ns" => some 1
  | "usec" | "us" | "µs" => some 1000
  | "millis" | "msec" | "ms" => some 1000000
  | "seconds" | "second" | "secs" | "sec" | "s" => some 1000000000
  | "minutes" | "minute" | "min" | "mins" | "m" => some 60000000000
  | "hours" | "hour" | "hr" | "hrs" | "h" => some 3600000000000
  | "days" | "day" | "d" => some 86400000000000
  | "weeks" | "week" | "wk" | "wks" | "w" => some 604800000000000
  | "months" | "month" | "M" => some 2630016000000000
  | "years" | "year" | "yr" | "yrs" | "y" => some 31557600000000000
  | _ => none

def bound64 : Nat := Nat.pow 2 64

/-- A running total of whole seconds and nanoseconds. -/
structure Total where
  secs : Nat
  nanos : Nat

/-- Adds seconds and nanoseconds to a total: each sum must fit in 64 bits, and then the whole
seconds among the nanoseconds are carried, which must leave the seconds in 64 bits too. -/
def Total.add (t : Total) (sec nsec : Nat) : Except DurationError Total :=
  let s := t.secs + sec
  let n := t.nanos + nsec
  if bound64 ≤ s ∨ bound64 ≤ n then .error .invalid
  else if bound64 ≤ s + n / Duration.nanosPerSecond then .error .overflow
  else .ok ⟨s + n / Duration.nanosPerSecond, n % Duration.nanosPerSecond⟩

/-- The seconds and nanoseconds of `whole` units of `per` nanoseconds each. -/
def wholePart (per whole : Nat) : Option (Nat × Nat) :=
  if per < Duration.nanosPerSecond then
    let n := whole * per
    if n < bound64 then some (0, n) else none
  else
    let s := whole * (per / Duration.nanosPerSecond)
    if s < bound64 then some (s, 0) else none

/-- The seconds and nanoseconds of the fraction `num / 10 ^ digits` of a unit of `per`
nanoseconds: a whole count of nanoseconds up to a minute, of seconds above; none of a
nanosecond. -/
def fractionPart (per num digits : Nat) : Option (Nat × Nat) :=
  let den := Nat.pow 10 digits
  if per = 1 then none
  else if per ≤ 60 * Duration.nanosPerSecond then
    let p := num * per
    if bound64 ≤ p ∨ p % den ≠ 0 then none else some (0, p / den)
  else
    let p := num * (per / Duration.nanosPerSecond)
    if bound64 ≤ p ∨ p % den ≠ 0 then none else some (p / den, 0)

/-- Adds one term: `whole` units, then the fraction `num / 10 ^ digits` of a unit if there is
one. -/
def addTerm (t : Total) (whole : Nat) (frac : Option (Nat × Nat)) (unit : String) :
    Except DurationError Total := do
  let some per := unitNanos unit | .error .invalid
  let some (sec, nsec) := wholePart per whole | .error .invalid
  let t ← t.add sec nsec
  match frac with
  | none => .ok t
  | some (num, digits) =>
    let some (fsec, fnsec) := fractionPart per num digits | .error .invalid
    t.add fsec fnsec

def isUnitLetter (c : Char) : Bool :=
  ('a' ≤ c ∧ c ≤ 'z') || ('A' ≤ c ∧ c ≤ 'Z') || c.toNat = 0xB5

/-- Where the reader of a phrase stands. -/
inductive Stage where
  /-- Reading a number: the whole part, and the fraction with its digit count once a point was
  read. -/
  | number (whole : Nat) (frac : Option (Nat × Nat))
  /-- Reading a unit, its letters so far in reverse. -/
  | unit (whole : Nat) (frac : Option (Nat × Nat)) (letters : List Char)
  /-- Between terms. -/
  | between

def closeTerm (t : Total) (whole : Nat) (frac : Option (Nat × Nat)) (letters : List Char) :
    Except DurationError Total :=
  addTerm t whole frac (String.ofList letters.reverse)

def scan (t : Total) : Stage → List Char → Except DurationError Total
  | .number _ _, [] => .error .invalid
  | .unit whole frac letters, [] => closeTerm t whole frac letters
  | .between, [] => .ok t
  | .number whole frac, c :: rest =>
    if c.isDigit then
      let d := c.toNat - 48
      match frac with
      | none =>
        if whole * 10 + d < bound64 then scan t (.number (whole * 10 + d) none) rest
        else .error .invalid
      | some (f, k) =>
        if f * 10 + d < bound64 ∧ Nat.pow 10 (k + 1) < bound64 then
          scan t (.number whole (some (f * 10 + d, k + 1))) rest
        else .error .invalid
    else if Text.isBlank c then scan t (.number whole frac) rest
    else if c = '.' then
      match frac with
      | none => scan t (.number whole (some (0, 0))) rest
      | some _ => .error .invalid
    else if isUnitLetter c then
      match frac with
      | some (_, 0) => .error .invalid
      | _ => scan t (.unit whole frac [c]) rest
    else .error .invalid
  | .unit whole frac letters, c :: rest =>
    if c.isDigit then do
      let t' ← closeTerm t whole frac letters
      scan t' (.number (c.toNat - 48) none) rest
    else if Text.isBlank c then do
      let t' ← closeTerm t whole frac letters
      scan t' .between rest
    else if isUnitLetter c then scan t (.unit whole frac (c :: letters)) rest
    else .error .invalid
  | .between, c :: rest =>
    if Text.isBlank c then scan t .between rest
    else if c.isDigit then scan t (.number (c.toNat - 48) none) rest
    else .error .invalid

/-- Reads a duration phrase; the first character that is not a blank must be a digit. -/
def parsePhrase (s : String) : Except DurationError Duration :=
  if s.toList.all Text.isBlank then .error .invalid
  else (scan ⟨0, 0⟩ .between s.toList).map fun t => ⟨t.secs * Duration.nanosPerSecond + t.nanos⟩

/-- Reads a duration setting: surrounding blanks are ignored, then a whole number of seconds (an
optional `+`, then digits), or else a phrase. Mirrors `parse_duration`. -/
def parseSetting (s : String) : Except DurationError Duration :=
  let t := Text.trim s
  match Text.readUnsigned? 64 t with
  | some n => .ok (Duration.ofSecs n)
  | none => parsePhrase t

theorem parseSetting_secs (s : String) (n : Nat) (h : Text.readUnsigned? 64 (Text.trim s) = some n) :
    parseSetting s = .ok (Duration.ofSecs n) := by
  simp [parseSetting, h]

-- an empty phrase is refused
example : parsePhrase "" = .error .invalid := by
  rfl

end FunctionHost.Time
